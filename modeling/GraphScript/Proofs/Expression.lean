import GraphScript.Lowering.Field
import GraphScript.Proofs.Bounded
import GraphScript.Proofs.Constant
import GraphScript.Proofs.Plan
import GraphScript.Proofs.Scan
import GraphScript.Script.Event
import Mathlib.Data.List.Forall2

namespace GraphScript

open Lowered

/-- What a list of lowerings gives comes from its members, in order. -/
theorem Lowered.mapM_result {α β : Type} {l : List α} {f : α → Lowered β} {results : List β}
    (h : (l.mapM f).result = .ok results) :
    List.Forall₂ (fun a b => (f a).result = .ok b) l results := by
  induction l generalizing results with
  | nil =>
    cases h
    exact .nil
  | cons a l ih =>
    rw [List.mapM_cons] at h
    obtain ⟨b, hb, h⟩ := bind_result_ok h
    obtain ⟨rest, hr, h⟩ := bind_result_ok h
    cases h
    exact .cons hb (ih hr)

theorem exists_of_forall₂ {α β : Type} {r : α → β → Prop} {l : List α} {results : List β}
    (h : List.Forall₂ r l results) : ∀ b ∈ results, ∃ a ∈ l, r a b := by
  induction h with
  | nil => simp
  | cons first _ ih =>
    refine List.forall_mem_cons.mpr ⟨⟨_, List.mem_cons_self, first⟩, fun b hb => ?_⟩
    obtain ⟨a, ha, own⟩ := ih b hb
    exact ⟨a, List.mem_cons_of_mem _ ha, own⟩

namespace CSharp

theorem neutral_floatLiteral (x : Binary64) : Neutral (floatLiteral x) :=
  (unmarked_floatLiteral x).neutral

theorem neutral_numberLiteral (type : Option FieldType) (x : Binary64) :
    Neutral (numberLiteral type x) := by
  have cast : Neutral intCast := by decide
  unfold numberLiteral
  split
  next =>
    split
    next => exact (unmarked_int _).neutral
    next => exact cast.append (neutral_floatLiteral x)
  next => exact neutral_floatLiteral x
  next =>
    split
    next => exact (unmarked_int _).neutral
    next => exact neutral_floatLiteral x

theorem neutral_zero (type : Option FieldType) : Neutral (FieldType.zero type) := by
  unfold FieldType.zero
  split <;> decide

theorem Literal.neutral {text : String} (h : Literal text) : Neutral text := by
  cases h with
  | quote text => exact neutral_quote text
  | bool b => exact (unmarked_boolLiteral b).neutral
  | number type x => exact neutral_numberLiteral type x
  | zero type => exact neutral_zero type

/-- The forms of what a field starts with. -/
inductive Initial : String → Prop
  | literal {text : String} : Literal text → Initial text
  | vector (v : Vec2) : Initial (vectorLiteral v)
  | null : Initial "null"

theorem Initial.neutral {text : String} (h : Initial text) : Neutral text := by
  cases h with
  | literal own => exact own.neutral
  | vector v =>
    exact neutral_join [.given _, .part _ (neutral_floatLiteral _), .given _,
      .part _ (neutral_floatLiteral _), .given _] rfl
  | null => decide

theorem initial_fitting? {type : FieldType} {value : Value} {text : String}
    (h : fitting? type value = .ok (some text)) : Initial text := by
  unfold fitting? at h
  split at h
  next =>
    cases h
    exact .literal (.zero _)
  next =>
    cases type with
    | int =>
      obtain ⟨found, -, h⟩ := ok_of_bind h
      obtain ⟨x, -, rfl⟩ := Option.map_eq_some_iff.mp (Except.ok.inj h)
      exact .literal (.number _ x)
    | float =>
      obtain ⟨found, -, h⟩ := ok_of_bind h
      obtain ⟨x, -, rfl⟩ := Option.map_eq_some_iff.mp (Except.ok.inj h)
      exact .literal (.number _ x)
    | bool =>
      obtain ⟨found, -, h⟩ := ok_of_bind h
      obtain ⟨b, -, rfl⟩ := Option.map_eq_some_iff.mp (Except.ok.inj h)
      exact .literal (.bool b)
    | string =>
      obtain ⟨s, -, h⟩ := ok_of_bind h
      cases h
      exact .literal (.quote s)
    | vector2 =>
      obtain ⟨v, -, rfl⟩ := Option.map_eq_some_iff.mp (Except.ok.inj h)
      exact .vector v
    | object => cases h

theorem initial_initialLiteral {type : FieldType} {value : Value} {text : String}
    (h : initialLiteral type value = .ok text) : Initial text := by
  obtain ⟨found, hf, h⟩ := ok_of_bind h
  cases h
  cases found with
  | none => exact .literal (.zero _)
  | some literal => exact initial_fitting? hf

theorem initial_objectLiteral {value : Value} {text : String} (h : objectLiteral value = .ok text) :
    Initial text := by
  unfold objectLiteral at h
  split at h
  next =>
    cases h
    exact .null
  next b =>
    cases h
    exact .literal (.bool b)
  next s =>
    cases h
    exact .literal (.quote s)
  next =>
    obtain ⟨found, -, h⟩ := ok_of_bind h
    cases found with
    | none =>
      cases h
      exact .null
    | some x =>
      cases h
      exact .literal (.number none x)

end CSharp

open CSharp

namespace ServiceCall

def arguments : ServiceCall → List String
  | spawn template position => [template, position]
  | spawnSelf position => [position]
  | playParticle preset position scale => [preset, position, scale]
  | playSound sound => [sound]
  | fireProjectile origin role speed damage => [origin, role, speed, damage]
  | emitSignal key => [key]
  | clearSignal key => [key]
  | showDialogue text => [text]
  | changeScene scene => [scene]
  | cooldown key seconds => [key, seconds]

/-- The character that a call starts with. -/
def initial (mode : ServiceMode) (service : Service) : Char :=
  match mode, service with
  | .context, _ => '_'
  | .static, .spawn | .static, .spawnSelf | .static, .playParticle | .static, .fireProjectile => 'P'
  | .static, .playSound => 'A'
  | .static, .emitSignal | .static, .clearSignal => 'E'
  | .static, .showDialogue => 'D'
  | .static, .changeScene => 'S'
  | .static, .cooldown => 'C'

theorem initial_ne {c : Char} (h : c ∉ ['_', 'P', 'A', 'E', 'D', 'S', 'C']) (mode : ServiceMode)
    (service : Service) : c ≠ initial mode service := by
  rintro rfl
  revert h
  cases mode <;> cases service <;> decide

/-- A call starts in a way of its own, and closes what it opens if its arguments do. -/
theorem render_written (mode : ServiceMode) {c : ServiceCall}
    (h : ∀ argument ∈ c.arguments, Neutral argument) :
    Neutral (c.render mode) ∧ (c.render mode).toList.head? = some (initial mode c.service) := by
  have written {first : List Char} {start : Char} (rest : List Fragment)
      (balanced : Fragment.balance (.code 0) (.given first :: rest) = some (.code 0))
      (head : first.head? = some start) : Neutral (Fragment.join (.given first :: rest)) ∧
        (Fragment.join (.given first :: rest)).toList.head? = some start := by
    refine ⟨neutral_join _ balanced, ?_⟩
    obtain ⟨more, line⟩ := Fragment.prefix_join first rest
    rw [← line, List.head?_append, head]
    rfl
  cases c with
  | spawn template position =>
    obtain ⟨ht, hp⟩ : Neutral template ∧ Neutral position := by simpa [arguments] using h
    cases mode with
    | context =>
      exact written [.given _, .part _ ht, .given _, .part _ hp, .given _] rfl rfl
    | static => exact written [.part _ ht, .given _, .part _ hp, .given _] rfl rfl
  | spawnSelf position =>
    have ha : Neutral position := by simpa [arguments] using h
    cases mode with
    | context => exact written [.given _, .part _ ha, .given _] rfl rfl
    | static => exact written [.part _ ha, .given _] rfl rfl
  | playParticle preset position scale =>
    obtain ⟨hr, hp, hs⟩ : Neutral preset ∧ Neutral position ∧ Neutral scale := by
      simpa [arguments] using h
    cases mode with
    | context =>
      exact written
        [.given _, .part _ hr, .given _, .part _ hp, .given _, .part _ hs, .given _] rfl rfl
    | static =>
      exact written
        [.part _ hr, .given _, .part _ hp, .given _, .part _ hs, .given _] rfl rfl
  | playSound sound =>
    have ha : Neutral sound := by simpa [arguments] using h
    cases mode with
    | context => exact written [.given _, .part _ ha, .given _] rfl rfl
    | static => exact written [.part _ ha, .given _] rfl rfl
  | fireProjectile origin role speed damage =>
    obtain ⟨ho, hr, hs, hd⟩ :
        Neutral origin ∧ Neutral role ∧ Neutral speed ∧ Neutral damage := by
      simpa [arguments] using h
    cases mode with
    | context =>
      exact written [.given _, .part _ ho, .given _, .part _ hr, .given _,
        .part _ hs, .given _, .part _ hd, .given _] rfl rfl
    | static =>
      exact written [.part _ ho, .given _, .part _ hr, .given _, .part _ hs,
        .given _, .part _ hd, .given _] rfl rfl
  | emitSignal key =>
    have ha : Neutral key := by simpa [arguments] using h
    cases mode with
    | context => exact written [.given _, .part _ ha, .given _] rfl rfl
    | static => exact written [.part _ ha, .given _] rfl rfl
  | clearSignal key =>
    have ha : Neutral key := by simpa [arguments] using h
    cases mode with
    | context => exact written [.given _, .part _ ha, .given _] rfl rfl
    | static => exact written [.part _ ha, .given _] rfl rfl
  | showDialogue text =>
    have ha : Neutral text := by simpa [arguments] using h
    cases mode with
    | context => exact written [.given _, .part _ ha, .given _] rfl rfl
    | static => exact written [.part _ ha, .given _] rfl rfl
  | changeScene scene =>
    have ha : Neutral scene := by simpa [arguments] using h
    cases mode with
    | context => exact written [.given _, .part _ ha, .given _] rfl rfl
    | static => exact written [.part _ ha, .given _] rfl rfl
  | cooldown key seconds =>
    obtain ⟨hk, hs⟩ : Neutral key ∧ Neutral seconds := by simpa [arguments] using h
    cases mode with
    | context =>
      exact written
        [.given _, .given _, .given _, .part _ hk, .given _, .part _ hs, .given _] rfl rfl
    | static => exact written [.part _ hk, .given _, .part _ hs, .given _] rfl rfl

end ServiceCall

/-- The keys that an input condition asks for. -/
def inputKeys (name : String) (params : Params) (key : Value) : List String :=
  match ConditionKind.ofName? name with
  | some (.input _) =>
    if key.isGiven then
      match key.written with
      | .ok code => [code]
      | .error _ => []
    else [(InputParams.form.coerce params).2.key]
  | _ => []

def Condition.inputKeys (c : Condition) : List String :=
  GraphScript.inputKeys c.type c.params ((c.key.map Value.text).getD .null)

def Node.inputKeys (node : Node) : List String :=
  match node.role, Context.kindName? (Context.givenKinds node.params) with
  | .condition, .ok (some name) =>
    GraphScript.inputKeys name node.params ((node.params.lookup "key").getD .null)
  | _, _ => []

/-- The keys that the test of a node asks for, whatever its role. -/
def Node.testKeys (node : Node) : List String :=
  match Context.kindName? (Context.givenKinds node.params) with
  | .ok (some name) =>
    GraphScript.inputKeys name node.params ((node.params.lookup "key").getD .null)
  | _ => []

theorem Node.inputKeys_of_condition {node : Node} (role : node.role = .condition) :
    node.inputKeys = node.testKeys := by
  unfold inputKeys testKeys
  rw [role]
  cases Context.kindName? (Context.givenKinds node.params) with
  | error fault => rfl
  | ok found => cases found <;> rfl

/-- The keys that the input conditions of an entity ask for. -/
def Entity.inputKeys (entity : Entity) : List String :=
  (entity.events.flatMap fun event => event.conditions.flatMap Condition.inputKeys) ++
    entity.modules.flatMap fun module => module.nodes.flatMap Node.inputKeys

/-- The settings whose texts stand in the code as they are given. -/
def Config.givenTexts (config : Config) : List String :=
  [config.classPrefix, config.contextType, config.runtimeNamespace]

namespace Context

variable {ctx : Context}

/-- Every identifier that a context gives is one of the generated code. -/
def NamesSanitized (ctx : Context) : Prop :=
  ∀ entry ∈ ctx.names, ∃ name, entry.2 = CSharp.sanitize name

/-- The identifiers that a context gives are the names of variables, sanitized. -/
theorem of_names (entity : Entity) (config : Config) :
    ∀ entry ∈ (Context.of entity config).names, entry.2 = CSharp.sanitize entry.1 := by
  have kept (vars : List Variable) (ctx : Context)
      (h : ∀ entry ∈ ctx.names, entry.2 = CSharp.sanitize entry.1) :
      ∀ entry ∈ (vars.foldl declare ctx).names, entry.2 = CSharp.sanitize entry.1 := by
    induction vars generalizing ctx with
    | nil => exact h
    | cons v vars ih =>
      apply ih
      unfold declare
      dsimp only
      split
      next => exact h
      next =>
        intro entry he
        dsimp only at he
        split at he
        next => exact h entry he
        next =>
          rcases List.mem_append.mp he with he | he
          · exact h entry he
          · cases List.mem_singleton.mp he
            rfl
  exact kept entity.vars ⟨entity, config, [], []⟩ fun entry he => by cases he

theorem of_namesSanitized (entity : Entity) (config : Config) :
    (Context.of entity config).NamesSanitized :=
  fun entry he => ⟨entry.1, of_names entity config entry he⟩

/-- The identifier of a name is what sanitizing makes of it, whether it is declared or not. -/
theorem of_identifier (entity : Entity) (config : Config) (name : String) :
    (Context.of entity config).identifier name = CSharp.sanitize name := by
  unfold identifier
  cases hl : (Context.of entity config).names.lookup name with
  | none => rfl
  | some ident => exact of_names entity config _ (mem_of_lookup hl)

theorem isName_identifier (h : ctx.NamesSanitized) (name : String) :
    CSharp.IsName (ctx.identifier name) := by
  unfold identifier
  cases hl : ctx.names.lookup name with
  | none => exact CSharp.isName_sanitize name
  | some ident =>
    obtain ⟨source, rfl : ident = _⟩ := h _ (mem_of_lookup hl)
    exact CSharp.isName_sanitize source

/-- The names that a context gives are names of the generated code, that of the health field too. -/
structure Named (ctx : Context) : Prop where
  names : ctx.NamesSanitized
  health : CSharp.IsName ctx.config.healthField

inductive IsOperand (ctx : Context) : String → Prop
  | literal {text : String} : CSharp.Literal text → IsOperand ctx text
  | reference (name : String) : IsOperand ctx (ctx.identifier name)

theorem IsOperand.hasConstant (named : ctx.NamesSanitized) {text : String} (h : ctx.IsOperand text) :
    CSharp.HasConstant text := by
  cases h with
  | literal h => exact h.hasConstant
  | reference name => exact (isName_identifier named name).unmarked.hasConstant

theorem IsOperand.neutral (named : ctx.NamesSanitized) {text : String} (h : ctx.IsOperand text) :
    Neutral text := by
  cases h with
  | literal h => exact h.neutral
  | reference name => exact (isName_identifier named name).unmarked.neutral

theorem numberOperand_isOperand (type : Option FieldType) (value : Value) {text : String}
    (h : numberOperand type value = .ok text) : ctx.IsOperand text := by
  unfold numberOperand at h
  split at h
  next =>
    split at h
    next =>
      cases h
      exact .literal (.number _ _)
    next => cases h
  next =>
    cases h
    exact .literal (.number _ _)
  next =>
    cases h
    exact .literal (.zero type)

theorem textOperand_isOperand {type : Option FieldType} {text expression : String}
    (h : ctx.textOperand type text = .ok expression) : ctx.IsOperand expression := by
  unfold textOperand at h
  split at h
  next =>
    cases h
    exact .reference text
  next => exact .literal (CSharp.literal_valueLiteral h)

mutual

theorem operand_isOperand (type : Option FieldType) (value : Value) {text : String}
    (h : (ctx.operand type value).result = .ok text) : ctx.IsOperand text := by
  unfold operand at h
  match value with
  | .null =>
    cases h
    exact .literal (.zero type)
  | .map entries =>
    obtain ⟨found, -, h⟩ := bind_result_ok h
    split at h
    next =>
      cases h
      exact .reference _
    next => exact wrappedOperand_isOperand type _ entries h
  | .bool b =>
    cases h
    exact .literal (.bool b)
  | .int n => exact numberOperand_isOperand type (.int n) h
  | .float x => exact numberOperand_isOperand type (.float x) h
  | .text _ => exact textOperand_isOperand h
  | .list _ =>
    obtain ⟨_, -, h⟩ := bind_result_ok h
    cases h
    exact .literal (.zero type)

theorem wrappedOperand_isOperand (type : Option FieldType) (whole : Value)
    (entries : List (Value × Value)) {text : String}
    (h : (ctx.wrappedOperand type whole entries).result = .ok text) : ctx.IsOperand text := by
  match entries with
  | [] =>
    unfold wrappedOperand at h
    obtain ⟨_, -, h⟩ := bind_result_ok h
    cases h
    exact .literal (.zero type)
  | (key, value) :: rest =>
    unfold wrappedOperand at h
    split at h
    next => exact operand_isOperand type value h
    next => exact wrappedOperand_isOperand type whole rest h

end

/-- The texts that stand in the code as they are given close what they open: the keys that are
asked for, and the settings. -/
structure Harmless (ctx : Context) : Prop where
  keys : ∀ key ∈ ctx.entity.inputKeys, Neutral (Key.member key)
  settings : ∀ text ∈ ctx.config.givenTexts, Neutral text

namespace Harmless

variable (h : ctx.Harmless)
include h

theorem classPrefix : Neutral ctx.config.classPrefix :=
  h.settings _ (by simp [Config.givenTexts])

theorem contextType : Neutral ctx.config.contextType :=
  h.settings _ (by simp [Config.givenTexts])

theorem runtimeNamespace : Neutral ctx.config.runtimeNamespace :=
  h.settings _ (by simp [Config.givenTexts])

end Harmless

/-- How the test of the one statement that stands without braces begins. -/
def hitWord : List Char :=
  ['h', 'i', 't', '.', 'g', 'a', 'm', 'e', 'O', 'b', 'j', 'e', 'c', 't']

/-- What a condition becomes: it closes what it opens, and is not taken for the test of a hit. -/
structure Expression (ctx : Context) (text : String) : Prop where
  neutral : ctx.Harmless → Neutral text
  apart : diverges (hitWord ++ [' ']) text.toList = true

theorem expression_of_name {name text : String} (hn : CSharp.IsName name) (neutral : Neutral text)
    (start : name.toList ++ [' '] <+: text.toList) : ctx.Expression text := by
  have different : hitWord ≠ name.toList := by
    intro h
    have dot : '.' ∈ hitWord := by decide
    exact hn.plain '.' (by decide) (h ▸ dot)
  have blank : ' ' ∉ name.toList := fun hm => unmarked_iff.mp hn.unmarked ' ' hm (by decide)
  exact ⟨fun _ => neutral, diverges_of_start (diverges_of_ne blank (by decide) different [] []) start⟩

theorem true_expression : ctx.Expression "true" :=
  ⟨fun _ => by decide, by decide⟩

/-- The forms of a condition: a field against a literal, a key that is asked for, or what holds in
any case. -/
inductive TestForm (keys : List String) : String → Prop
  | compared {name literal : String} (c : Comparison) : IsName name → Literal literal →
      TestForm keys (name ++ " " ++ c.symbol ++ " " ++ literal)
  | asked (phase : KeyPhase) {code : String} : code ∈ keys →
      TestForm keys ("Input." ++ phase.method ++ "(KeyCode." ++ Key.member code ++ ")")
  | holds : TestForm keys "true"
  | untracked : TestForm keys "true /* RoleEquals: role is not tracked at runtime */"

theorem TestForm.mono {keys more : List String} (hk : keys ⊆ more) {text : String}
    (h : TestForm keys text) : TestForm more text := by
  cases h with
  | compared c hn hl => exact .compared c hn hl
  | asked phase hc => exact .asked phase (hk hc)
  | holds => exact .holds
  | untracked => exact .untracked

theorem TestForm.expression {text : String} (h : TestForm ctx.entity.inputKeys text) :
    ctx.Expression text := by
  cases h with
  | compared c hn hl =>
    have symbol : Neutral c.symbol := by cases c <;> decide
    refine expression_of_name hn (neutral_join [.part _ hn.unmarked.neutral, .given _,
      .part _ symbol, .given _, .part _ hl.neutral] rfl) ?_
    simp
  | asked phase hc =>
    have method : Neutral phase.method := by cases phase <;> decide
    refine ⟨fun harmless => ?_, diverges_of_head (d := 'I') (by simp) (by decide)⟩
    exact neutral_join [.given _, .part _ method, .given _, .part _ (harmless.keys _ hc),
      .given _] rfl
  | holds => exact true_expression
  | untracked => exact ⟨fun _ => by decide, by decide⟩

theorem comparison_form (named : ctx.Named) {keys : List String} {c : Comparison} {name : String}
    {value : Value} {text : String} (h : ctx.comparison c name value = .ok text) :
    TestForm keys text := by
  obtain ⟨literal, hl, h⟩ := ok_of_bind h
  cases h
  exact .compared c (isName_identifier named.names name) (literal_valueLiteral hl)

theorem lowerInput_form {phase : KeyPhase} {params : Params} {key : Value} {name : String}
    (kind : ConditionKind.ofName? name = some (.input phase)) {text : String}
    (h : (lowerInput phase params key).result = .ok text) :
    TestForm (inputKeys name params key) text := by
  unfold lowerInput at h
  split at h
  next given =>
    obtain ⟨code, hc, h⟩ := bind_result_ok h
    have written : key.written = .ok code := hc
    cases h
    exact .asked phase (by simp [inputKeys, kind, given, written])
  next absent =>
    obtain ⟨p, hp, h⟩ := bind_result_ok h
    cases h
    exact .asked phase (by simp [inputKeys, kind, absent, readParams_result hp])

theorem lowerNamedCondition_form (named : ctx.Named) {name : String} {params : Params} {key : Value}
    {text : String} (h : (ctx.lowerNamedCondition name params key).result = .ok text) :
    TestForm (inputKeys name params key) text := by
  have threshold {c : Comparison} (h : (ctx.lowerThreshold c.symbol params).result = .ok text) :
      TestForm (inputKeys name params key) text := by
    obtain ⟨p, -, h⟩ := bind_result_ok h
    obtain ⟨health, hh, h⟩ := bind_result_ok h
    cases hh
    cases h
    exact .compared c named.health (.number _ _)
  unfold lowerNamedCondition at h
  split at h
  next =>
    obtain ⟨_, -, h⟩ := bind_result_ok h
    cases h
    exact .holds
  next kind hk =>
    obtain ⟨_, -, h⟩ := bind_result_ok h
    cases kind with
    | compare c =>
      obtain ⟨p, -, h⟩ := bind_result_ok h
      split at h
      next =>
        obtain ⟨_, -, h⟩ := bind_result_ok h
        cases h
        exact .holds
      next => exact comparison_form named h
    | isAlive =>
      obtain ⟨health, hh, h⟩ := bind_result_ok h
      cases hh
      cases h
      have above : TestForm (inputKeys name params key) _ :=
        .compared .greater named.health (.zero none)
      simpa [Comparison.symbol, FieldType.zero, String.append_assoc] using above
    | healthBelow => exact threshold (c := .less) h
    | healthAbove => exact threshold (c := .greater) h
    | roleEquals =>
      cases h
      exact .untracked
    | input phase => exact lowerInput_form hk h

theorem lowerConditionNode_form (named : ctx.Named) {node : Node} {text : String}
    (h : (ctx.lowerConditionNode node).result = .ok text) : TestForm node.testKeys text := by
  obtain ⟨found, hf, h⟩ := bind_result_ok h
  cases found with
  | some name =>
    have kind : kindName? (givenKinds node.params) = .ok (some name) := hf
    rw [Node.testKeys, kind]
    exact lowerNamedCondition_form named h
  | none =>
    obtain ⟨p, -, h⟩ := bind_result_ok h
    split at h
    next =>
      obtain ⟨_, -, h⟩ := bind_result_ok h
      cases h
      exact .holds
    next =>
      dsimp only at h
      split at h
      next => exact comparison_form named h
      next =>
        obtain ⟨_, -, h⟩ := bind_result_ok h
        exact comparison_form named h

theorem testKeys_of_node {module : Module} {node : Node} (hm : module ∈ ctx.entity.modules)
    (hn : node ∈ module.nodes) (role : node.role = .condition) :
    node.testKeys ⊆ ctx.entity.inputKeys := by
  intro code hc
  rw [← Node.inputKeys_of_condition role] at hc
  exact List.mem_append_right _
    (List.mem_flatMap.mpr ⟨module, hm, List.mem_flatMap.mpr ⟨node, hn, hc⟩⟩)

theorem inputKeys_of_condition {event : Event} (he : event ∈ ctx.entity.events) {c : Condition}
    (hc : c ∈ event.conditions) : c.inputKeys ⊆ ctx.entity.inputKeys :=
  fun _ hm => List.mem_append_left _
    (List.mem_flatMap.mpr ⟨event, he, List.mem_flatMap.mpr ⟨c, hc, hm⟩⟩)

theorem combine_expression (useOr : Bool) {parts : List String}
    (h : ∀ part ∈ parts, ctx.Expression part) : ctx.Expression (combine useOr parts) := by
  unfold combine
  split
  next => exact true_expression
  next given =>
    refine ⟨fun harmless => ?_, ?_⟩
    · refine Neutral.intercalate ?_ fun part hp => (h part hp).neutral harmless
      split <;> decide
    · cases parts with
      | nil => exact absurd rfl given
      | cons first rest =>
        have start := (h first List.mem_cons_self).apart
        cases rest with
        | nil => rwa [String.intercalate_singleton]
        | cons second rest =>
          rw [String.intercalate_cons_cons, String.append_assoc, String.toList_append]
          exact diverges_of_start start (List.prefix_append _ _)

theorem call_result {c : ServiceCall} {text : String} (h : (ctx.call c).result = .ok text) :
    text = c.render ctx.config.serviceMode := by
  obtain ⟨_, -, h⟩ := bind_result_ok h
  cases h
  rfl

/-- The test of an event's cooldown, if that is a positive number. -/
def cooldownTests (ctx : Context) (index : Nat) (event : Event) : List String :=
  match ((event.triggerParams.lookup "cooldown").getD .null).number? with
  | .ok (some seconds) =>
    if seconds.isPositive then
      [(ServiceCall.cooldown (ctx.cooldownKey index) (floatLiteral seconds)).render
        ctx.config.serviceMode]
    else []
  | _ => []

/-- The tests around an event, from the outside to the inside: its conditions in one, if it has any,
and its cooldown. -/
def Guards (ctx : Context) (index : Nat) (event : Event) (tests : List String) : Prop :=
  ∃ parts, List.Forall₂ (fun c text => (ctx.lowerCondition c).result = .ok text) event.conditions
      parts ∧
    tests = (if event.conditions.isEmpty then [] else [combine event.usesOr parts]) ++
      ctx.cooldownTests index event

theorem conditionGuard_result {event : Event} {tests : List String}
    (h : (ctx.conditionGuard event).result = .ok tests) :
    ∃ parts, List.Forall₂ (fun c text => (ctx.lowerCondition c).result = .ok text)
        event.conditions parts ∧
      tests = if event.conditions.isEmpty then [] else [combine event.usesOr parts] := by
  unfold conditionGuard at h
  split at h
  next none =>
    cases h
    rw [List.isEmpty_iff.mp none]
    exact ⟨[], .nil, rfl⟩
  next some =>
    obtain ⟨parts, hp, h⟩ := bind_result_ok h
    cases h
    exact ⟨parts, mapM_result hp, by rw [if_neg some]⟩

theorem cooldownGuard_result {index : Nat} {event : Event} {tests : List String}
    (h : (ctx.cooldownGuard index event).result = .ok tests) :
    tests = ctx.cooldownTests index event := by
  obtain ⟨seconds, hs, h⟩ := bind_result_ok h
  change Value.number? _ = _ at hs
  rw [cooldownTests, hs]
  cases seconds with
  | none =>
    cases h
    rfl
  | some seconds =>
    dsimp only at h ⊢
    split at h
    next positive =>
      obtain ⟨text, ht, h⟩ := bind_result_ok h
      cases h
      rw [call_result ht, if_pos positive]
    next negative =>
      cases h
      rw [if_neg negative]

theorem guards_result {index : Nat} {event : Event} {tests : List String}
    (h : (ctx.guards index event).result = .ok tests) : ctx.Guards index event tests := by
  obtain ⟨conditions, hc, h⟩ := bind_result_ok h
  obtain ⟨cooldown, hd, h⟩ := bind_result_ok h
  cases h
  obtain ⟨parts, hp, rfl⟩ := conditionGuard_result hc
  exact ⟨parts, hp, by rw [cooldownGuard_result hd]⟩

theorem cooldownTests_expression {index : Nat} {event : Event} :
    ∀ test ∈ ctx.cooldownTests index event, ctx.Expression test := by
  have gate (seconds : Binary64) : ctx.Expression ((ServiceCall.cooldown (ctx.cooldownKey index)
      (floatLiteral seconds)).render ctx.config.serviceMode) := by
    have arguments : ∀ argument ∈ (ServiceCall.cooldown (ctx.cooldownKey index)
        (floatLiteral seconds)).arguments, Neutral argument := by
      simp [ServiceCall.arguments, neutral_floatLiteral, cooldownKey, neutral_quote]
    obtain ⟨neutral, head⟩ := ServiceCall.render_written ctx.config.serviceMode arguments
    exact ⟨fun _ => neutral, diverges_of_head head (ServiceCall.initial_ne (by decide) _ _)⟩
  unfold cooldownTests
  split
  next seconds _ =>
    split
    next => exact List.forall_mem_singleton.mpr (gate seconds)
    next => simp
  next => simp

theorem Guards.expression (named : ctx.Named) {index : Nat} {event : Event}
    (he : event ∈ ctx.entity.events) {tests : List String} (h : ctx.Guards index event tests) :
    ∀ test ∈ tests, ctx.Expression test := by
  obtain ⟨parts, hp, rfl⟩ := h
  refine List.forall_mem_append.mpr ⟨?_, cooldownTests_expression⟩
  split
  next => simp
  next =>
    refine List.forall_mem_singleton.mpr (combine_expression _ fun part hm => ?_)
    obtain ⟨c, hc, own⟩ := exists_of_forall₂ hp part hm
    exact ((lowerNamedCondition_form named own).mono (inputKeys_of_condition he hc)).expression

end Context

end GraphScript
