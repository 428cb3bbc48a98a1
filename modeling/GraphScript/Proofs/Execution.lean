import GraphScript.Proofs.Coroutine
import GraphScript.Proofs.Utterance
import Mathlib.Logic.Function.Basic
import Mathlib.Logic.Relation

namespace GraphScript

open CSharp

/-- The statements of a passage, one after the other. -/
def Passage.steps : Passage → List Passage
  | empty => []
  | seq first second => first.steps ++ second.steps
  | p => [p]

theorem Passage.steps_append (first second : List Passage) :
    (concat (first ++ second)).steps = (concat first).steps ++ (concat second).steps := by
  induction first with
  | nil => rfl
  | cons p first ih => rw [List.cons_append, concat, steps, ih, concat, steps, List.append_assoc]

/-- The test with which a statement begins. -/
def Passage.test? : Passage → Option String
  | block header _ => header
  | under test _ => some test
  | _ => none

/-- The name that a signature declares: the word before the parenthesis. -/
def declaredName (signature : String) : List Char :=
  ((signature.toList.takeWhile (· != '(')).reverse.takeWhile (· != ' ')).reverse

/-- The methods that are called from outside. The other coroutines are started by these. -/
def Method.isEntry (m : Method) : Bool :=
  !m.isCoroutine || m.signature == "IEnumerator Start()"

namespace Execution

/-- What a line does to a truth value, or which routine it starts. Assignments with an operator change
numbers. -/
inductive Deed where
  | assign (name : String) (value : Option Bool)
  | start (flag routine : String)
  | other
  deriving DecidableEq

namespace Deed

/-- The truth value that is assigned, if it is written out. -/
def value (expression : List Char) : Option Bool :=
  if expression = "true;".toList then some true
  else if expression = "false;".toList then some false
  else none

def startText (flag routine : String) : String :=
  "if (!" ++ flag ++ ") StartCoroutine(" ++ routine ++ "());"

def read (text : String) : Deed :=
  match text.toList.dropWhile (· != ' ') with
  | ' ' :: '=' :: ' ' :: expression =>
    assign (String.ofList (text.toList.takeWhile (· != ' '))) (value expression)
  | _ =>
    let tested := text.toList.drop "if (!".length
    let flag := String.ofList (tested.takeWhile (· != ')'))
    let started := (tested.dropWhile (· != ')')).drop ") StartCoroutine(".length
    let routine := String.ofList (started.takeWhile (· != '('))
    if text = startText flag routine then start flag routine else other

theorem dropWhile_word {word : List Char} {stop : Char} (h : stop ∉ word) (rest : List Char) :
    (word ++ stop :: rest).dropWhile (· != stop) = stop :: rest ∧
      (word ++ stop :: rest).takeWhile (· != stop) = word := by
  have inside : ∀ c ∈ word, (c != stop) = true := by
    intro c hc
    simpa using fun same : c = stop => h (same ▸ hc)
  rw [List.dropWhile_append_of_pos inside, List.takeWhile_append_of_pos inside]
  simp

theorem read_assign {name : String} (h : ' ' ∉ name.toList) {text : String}
    {expression : List Char} (ht : text.toList = name.toList ++ ' ' :: '=' :: ' ' :: expression) :
    read text = assign name (value expression) := by
  have ⟨rest, word⟩ := dropWhile_word h ('=' :: ' ' :: expression)
  rw [read, ht, rest, word]
  exact congrArg (assign · (value expression)) String.ofList_toList

/-- A line that assigns begins with the name and the sign. -/
theorem start_of_read_assign {text name : String} {v : Option Bool}
    (h : read text = assign name v) :
    ' ' ∉ name.toList ∧ name.toList ++ [' ', '=', ' '] <+: text.toList := by
  unfold read at h
  split at h
  next expression rest =>
    cases h
    rw [String.toList_ofList]
    refine ⟨fun blank => ?_, expression, ?_⟩
    · have inside := List.all_eq_true.mp List.all_takeWhile ' ' blank
      cases inside
    · rw [List.append_assoc]
      exact (congrArg _ rest.symm).trans List.takeWhile_append_dropWhile
  next =>
    dsimp only at h
    split at h
    next => cases h
    next => cases h

theorem read_startText {flag routine : String} (hf : ')' ∉ flag.toList)
    (hr : '(' ∉ routine.toList) : read (startText flag routine) = start flag routine := by
  have whole : (startText flag routine).toList =
      "if (!".toList ++ (flag.toList ++ ')' :: (" StartCoroutine(".toList ++
        (routine.toList ++ '(' :: "));".toList))) := by
    simp [startText]
  have ⟨behind, word⟩ := dropWhile_word hf (" StartCoroutine(".toList ++
    (routine.toList ++ '(' :: "));".toList))
  have ⟨_, called⟩ := dropWhile_word hr "));".toList
  -- the first blank stands before the test, not before a sign
  have blank : (startText flag routine).toList.dropWhile (· != ' ') =
      ' ' :: '(' :: '!' :: (flag.toList ++ ')' :: (" StartCoroutine(".toList ++
        (routine.toList ++ '(' :: "));".toList))) := by
    rw [whole]
    rfl
  have tested : (startText flag routine).toList.drop "if (!".length =
      flag.toList ++ ')' :: (" StartCoroutine(".toList ++
        (routine.toList ++ '(' :: "));".toList)) := by
    rw [whole]
    rfl
  have started : (')' :: (" StartCoroutine(".toList ++
      (routine.toList ++ '(' :: "));".toList))).drop ") StartCoroutine(".length =
      routine.toList ++ '(' :: "));".toList := rfl
  simp only [read, blank, tested, word, behind, started, called, String.ofList_toList, if_true]
  rfl

theorem start_of_read_start {text flag routine : String} (h : read text = start flag routine) :
    text = startText flag routine := by
  unfold read at h
  split at h
  next => cases h
  next =>
    dsimp only at h
    split at h
    next own =>
      cases h
      exact own
    next => cases h

end Deed

/-- What a statement comes to that is no line and does not wait. The body of a block is run once, or
not at all if the block has a header, and a loop can be run again. -/
inductive Unfolds : Passage → List Passage → Prop
  | comment (text : String) : Unfolds (.comment text) []
  | enter (header : Option String) (body : Passage) : Unfolds (.block header body) body.steps
  | skip (header : String) (body : Passage) : Unfolds (.block (some header) body) []
  | again {header : String} (body : Passage) : "foreach ".toList <+: header.toList →
      Unfolds (.block (some header) body) (body.steps ++ [.block (some header) body])
  | pass (test statement : String) : Unfolds (.under test statement) [.line statement]
  | fail (test statement : String) : Unfolds (.under test statement) []

/-- A method that was entered, and what is left of it. -/
structure Frame where
  method : String
  rest : List Passage

def Frame.of (m : Method) : Frame :=
  ⟨m.signature, m.body.steps⟩

/-- The truth values of the fields, the methods that run, the innermost first, and the coroutines
that wait. -/
structure State where
  fields : String → Bool
  stack : List Frame
  suspended : List Frame

/-- A step of a class. Where nothing runs, a method is called or a coroutine is resumed. Otherwise the
innermost method goes on. The code of a test has its effect before it is decided: where something is
assigned in it the fields that it names may change, a method of the class that is called in it is run,
and where a statement ends in it the method may be left. -/
inductive Step (code : ClassCode) : State → State → Prop
  | call {fields : String → Bool} {suspended : List Frame} {m : Method} :
      m ∈ code.methods → m.isEntry = true →
      Step code ⟨fields, [], suspended⟩ ⟨fields, [.of m], suspended⟩
  | resume {fields : String → Bool} {before after : List Frame} {f : Frame} :
      Step code ⟨fields, [], before ++ f :: after⟩ ⟨fields, [f], before ++ after⟩
  | finish {fields : String → Bool} {method : String} {below suspended : List Frame} :
      Step code ⟨fields, ⟨method, []⟩ :: below, suspended⟩ ⟨fields, below, suspended⟩
  | wait {fields : String → Bool} {method seconds : String} {rest : List Passage}
      {below suspended : List Frame} :
      Step code ⟨fields, ⟨method, .wait seconds :: rest⟩ :: below, suspended⟩
        ⟨fields, below, ⟨method, rest⟩ :: suspended⟩
  | proceed {fields : String → Bool} {method : String} {p : Passage} {inner rest : List Passage}
      {below suspended : List Frame} : Unfolds p inner →
      Step code ⟨fields, ⟨method, p :: rest⟩ :: below, suspended⟩
        ⟨fields, ⟨method, inner ++ rest⟩ :: below, suspended⟩
  | alter {fields fields' : String → Bool} {method test : String} {p : Passage}
      {rest : List Passage} {below suspended : List Frame} :
      p.test? = some test → .assign ∈ signs test →
      (∀ name, fields' name ≠ fields name → name.toList <:+: test.toList) →
      Step code ⟨fields, ⟨method, p :: rest⟩ :: below, suspended⟩
        ⟨fields', ⟨method, p :: rest⟩ :: below, suspended⟩
  | invoke {fields : String → Bool} {method test : String} {p : Passage} {rest : List Passage}
      {below suspended : List Frame} {m : Method} :
      p.test? = some test → m ∈ code.methods →
      (signs test).any (Sign.isCallOf (declaredName m.signature)) = true →
      Step code ⟨fields, ⟨method, p :: rest⟩ :: below, suspended⟩
        ⟨fields, .of m :: ⟨method, p :: rest⟩ :: below, suspended⟩
  | leave {fields : String → Bool} {method test : String} {p : Passage} {rest : List Passage}
      {below suspended : List Frame} :
      p.test? = some test → .stop ∈ signs test →
      Step code ⟨fields, ⟨method, p :: rest⟩ :: below, suspended⟩ ⟨fields, below, suspended⟩
  | other {fields : String → Bool} {method text : String} {rest : List Passage}
      {below suspended : List Frame} : Deed.read text = .other →
      Step code ⟨fields, ⟨method, .line text :: rest⟩ :: below, suspended⟩
        ⟨fields, ⟨method, rest⟩ :: below, suspended⟩
  | assign {fields : String → Bool} {method text name : String} {value : Option Bool} {v : Bool}
      {rest : List Passage} {below suspended : List Frame} :
      Deed.read text = .assign name value → (∀ given ∈ value, v = given) →
      Step code ⟨fields, ⟨method, .line text :: rest⟩ :: below, suspended⟩
        ⟨Function.update fields name v, ⟨method, rest⟩ :: below, suspended⟩
  | running {fields : String → Bool} {method text flag routine : String} {rest : List Passage}
      {below suspended : List Frame} : Deed.read text = .start flag routine → fields flag = true →
      Step code ⟨fields, ⟨method, .line text :: rest⟩ :: below, suspended⟩
        ⟨fields, ⟨method, rest⟩ :: below, suspended⟩
  | start {fields : String → Bool} {method text flag routine : String} {rest : List Passage}
      {below suspended : List Frame} {m : Method} :
      Deed.read text = .start flag routine → fields flag = false →
      m ∈ code.methods → m.signature = "IEnumerator " ++ routine ++ "()" →
      Step code ⟨fields, ⟨method, .line text :: rest⟩ :: below, suspended⟩
        ⟨fields, .of m :: ⟨method, rest⟩ :: below, suspended⟩

/-- The states that a class comes to. Nothing runs at first, and private truth values are false. -/
inductive Reachable (code : ClassCode) : State → Prop
  | initial {fields : String → Bool} :
      (∀ name, Piece.line ("private bool " ++ name ++ ";") ∈ code.fields.pieces →
        fields name = false) →
      Reachable code ⟨fields, [], []⟩
  | step {before after : State} : Reachable code before → Step code before after →
      Reachable code after

/-- The instances of a method that were entered and have not come to their end. -/
def State.live (state : State) (m : Method) : Nat :=
  (state.stack ++ state.suspended).countP (·.method == m.signature)

section Lines

variable (r : RoutineCode)

theorem read_call : Deed.read r.call = .start r.flag r.name := by
  refine Deed.read_startText (fun hm => ?_) fun hm => ?_
  · exact CSharp.unmarked_iff.mp r.unmarked_flag ')' hm (by decide)
  · exact CSharp.unmarked_iff.mp r.unmarked_name '(' hm (by decide)

theorem read_flag {text : String} {expression : List Char}
    (h : text.toList = ' ' :: '=' :: ' ' :: expression) :
    Deed.read (r.flag ++ text) = .assign r.flag (Deed.value expression) := by
  refine Deed.read_assign (fun hm => ?_) ?_
  · exact CSharp.unmarked_iff.mp r.unmarked_flag ' ' hm (by decide)
  · rw [String.toList_append, h]

theorem read_raise : Deed.read (r.flag ++ " = true;") = .assign r.flag (some true) := by
  have text : " = true;".toList = ' ' :: '=' :: ' ' :: "true;".toList := by decide
  exact read_flag r text

theorem read_lower : Deed.read (r.flag ++ " = false;") = .assign r.flag (some false) := by
  have text : " = false;".toList = ' ' :: '=' :: ' ' :: "false;".toList := by decide
  exact read_flag r text

end Lines

/-- Any number of steps. -/
abbrev Runs (code : ClassCode) : State → State → Prop :=
  Relation.ReflTransGen (Step code)

theorem Reachable.runs {code : ClassCode} {before after : State} (h : Reachable code before)
    (runs : Runs code before after) : Reachable code after := by
  induction runs with
  | refl => exact h
  | tail _ step ih => exact ih.step step

/-- All guards of a passage can be passed. -/
theorem runs_guarded {code : ClassCode} (guards : List String) (body : Passage)
    (fields : String → Bool) (method : String) (rest : List Passage) (below suspended : List Frame) :
    Runs code ⟨fields, ⟨method, (Passage.guarded guards body).steps ++ rest⟩ :: below, suspended⟩
      ⟨fields, ⟨method, body.steps ++ rest⟩ :: below, suspended⟩ := by
  induction guards with
  | nil => exact .refl
  | cons guard guards ih => exact .head (.proceed (.enter _ _)) ih

end Execution

end GraphScript
