import GraphScript.Proofs.Build

namespace GraphScript

open CSharp

namespace Text

theorem wordsFrom_append_blank {c : Char} (hc : isBlank c = true) (word cs rest : List Char) :
    wordsFrom word (cs ++ c :: rest) = wordsFrom word cs ++ wordsFrom [] rest := by
  induction cs generalizing word with
  | nil =>
    simp only [List.nil_append, wordsFrom, hc, if_true]
    split
    next => rfl
    next => rfl
  | cons d cs ih =>
    rw [List.cons_append, wordsFrom, wordsFrom]
    split
    next =>
      split
      next => exact ih []
      next => rw [ih [], List.cons_append]
    next => exact ih (d :: word)

theorem words_append (first second : String) :
    words (first ++ " " ++ second) = words first ++ words second := by
  have split : (first ++ " " ++ second).toList = first.toList ++ ' ' :: second.toList := by simp
  unfold words
  rw [split, wordsFrom_append_blank (by decide), List.map_append]

/-- A text begins with its first words, also when its blanks are put in order. -/
theorem prefix_flatten {first : String} (h : words first ≠ []) (second : String) :
    (flatten first).toList <+: (flatten (first ++ " " ++ second)).toList := by
  unfold flatten
  rw [words_append]
  by_cases none : words second = []
  · rw [none, List.append_nil]
  · rw [String.intercalate_append_of_ne_nil h none, String.append_assoc, String.toList_append]
    exact List.prefix_append _ _

theorem suffix_flatten {first : String} (h : words first ≠ []) (second : String) :
    (flatten second).toList <:+ (flatten (first ++ " " ++ second)).toList := by
  unfold flatten
  rw [words_append]
  by_cases none : words second = []
  · rw [none]
    exact List.nil_suffix
  · rw [String.intercalate_append_of_ne_nil h none, String.toList_append]
    exact List.suffix_append _ _

end Text

/-- The decisions that leave a comment in the code. -/
inductive Diagnostic where
  | unknownAction
  | cycle
  | depthLimit
  | budgetExhausted
  | missingModule
  | recursiveModule
  | missingEntry
deriving DecidableEq, Repr

namespace Diagnostic

def all : List Diagnostic :=
  [unknownAction, cycle, depthLimit, budgetExhausted, missingModule, recursiveModule, missingEntry]

/-- The reason that is recorded. -/
def reason : Diagnostic → String
  | unknownAction => "unknown_action"
  | cycle => "cycle"
  | depthLimit => "depth_limit"
  | budgetExhausted => "budget_exhausted"
  | missingModule => "missing_module"
  | recursiveModule => "recursive_module"
  | missingEntry => "missing_entry"

/-- How the comment begins. -/
def opening : Diagnostic → String
  | unknownAction => "Unknown action:"
  | cycle => "Cycle: node"
  | depthLimit => "Traversal depth limit"
  | budgetExhausted => "Traversal budget exhausted"
  | missingModule => "Warning: Module"
  | recursiveModule => "Recursive RunModule:"
  | missingEntry => "Warning: Module"

/-- How the comment ends. -/
def ending : Diagnostic → String
  | unknownAction => ""
  | cycle => "already visited"
  | depthLimit => "reached"
  | budgetExhausted => ""
  | missingModule => "not found"
  | recursiveModule => "is already running here"
  | missingEntry => "has no entry node"

/-- What a record tells, if it is one of a fallback. -/
def ofRecord? (fields : Params) : Option Diagnostic :=
  match fields.lookup "type", fields.lookup "reason" with
  | some (.text "fallback"), some (.text reason) => all.find? fun d => d.reason == reason
  | _, _ => none

/-- How the line of the comment begins. -/
def start (d : Diagnostic) : List Char :=
  "// ".toList ++ d.opening.toList

/-- Whether a line is the comment of a decision. -/
def isReadIn (text : String) (d : Diagnostic) : Bool :=
  d.start.isPrefixOf text.toList && d.ending.toList.isSuffixOf text.toList

/-- What a line tells, if it is the comment of a decision. -/
def ofLine? (text : String) : Option Diagnostic :=
  all.find? (isReadIn text)

theorem isReadIn_iff {text : String} {d : Diagnostic} :
    isReadIn text d = true ↔ d.start <+: text.toList ∧ d.ending.toList <:+ text.toList := by
  rw [isReadIn, Bool.and_eq_true_iff, List.isPrefixOf_iff_prefix, List.isSuffixOf_iff_suffix]

/-- The comments of two decisions differ in how they begin, or in their last letter. -/
theorem apart (d e : Diagnostic) : d = e ∨ diverges d.start e.start = true ∨
    ∃ c c', d.ending.toList.getLast? = some c ∧ e.ending.toList.getLast? = some c' ∧ c ≠ c' := by
  by_cases same : d = e
  · exact .inl same
  · refine .inr ?_
    cases d <;> cases e <;> first
      | exact absurd rfl same
      | exact .inl (by decide)
      | exact .inr ⟨_, _, rfl, rfl, by decide⟩

theorem eq_of_isReadIn {text : String} {d e : Diagnostic} (hd : isReadIn text d = true)
    (he : isReadIn text e = true) : d = e := by
  obtain ⟨starts, ends⟩ := isReadIn_iff.mp hd
  obtain ⟨starts', ends'⟩ := isReadIn_iff.mp he
  have last {cs : List Char} {c : Char} (hs : cs <:+ text.toList) (hc : cs.getLast? = some c) :
      text.toList.getLast? = some c := by
    obtain ⟨before, whole⟩ := hs
    rw [← whole, List.getLast?_append, hc]
    rfl
  rcases apart d e with same | differ | ⟨c, c', hc, hc', differ⟩
  · exact same
  · exact absurd starts (not_prefix_of_diverges (diverges_of_start differ starts'))
  · have letters := (last ends hc).symm.trans (last ends' hc')
    exact absurd (Option.some.inj letters) differ

theorem ofLine?_eq_some {text : String} {d : Diagnostic} (starts : d.start <+: text.toList)
    (ends : d.ending.toList <:+ text.toList) : ofLine? text = some d := by
  have own : isReadIn text d = true := isReadIn_iff.mpr ⟨starts, ends⟩
  have only : isReadIn text = fun e => e == d := by
    funext e
    cases he : isReadIn text e with
    | true => exact (beq_iff_eq.mpr (eq_of_isReadIn he own)).symm
    | false =>
      have other : e ≠ d := by
        rintro rfl
        rw [own] at he
        cases he
      exact (beq_false_of_ne other).symm
  rw [ofLine?, only]
  cases d <;> rfl

theorem ofLine?_eq_none {text : String} (h : ∀ d : Diagnostic, diverges d.start text.toList) :
    ofLine? text = none := by
  refine List.find?_eq_none.mpr fun d _ hd => ?_
  exact not_prefix_of_diverges (h d) (isReadIn_iff.mp hd).1

/-- A comment begins with its first words. -/
theorem prefix_commentText (first : String) (given : Text.words first ≠ [])
    (orderly : Text.flatten first = first) (rest : String) :
    "// ".toList ++ first.toList <+: (Passage.commentText (first ++ " " ++ rest)).toList := by
  have start := Text.prefix_flatten given rest
  rw [orderly] at start
  rw [Passage.commentText, String.toList_append]
  exact (List.prefix_append_right_inj _).mpr start

/-- A comment whose first word begins none of the comments of decisions. -/
theorem ofLine?_remark {word : String} (given : Text.words word ≠ [])
    (orderly : Text.flatten word = word)
    (apart : ∀ d : Diagnostic, diverges d.start ("// ".toList ++ word.toList) = true)
    (rest : String) : ofLine? (Passage.commentText (word ++ " " ++ rest)) = none :=
  ofLine?_eq_none fun d => diverges_of_start (apart d) (prefix_commentText word given orderly rest)

theorem opening_given (d : Diagnostic) : Text.words d.opening ≠ [] := by
  cases d <;> decide

theorem opening_orderly (d : Diagnostic) : Text.flatten d.opening = d.opening := by
  cases d <;> decide

theorem ending_orderly (d : Diagnostic) : Text.flatten d.ending = d.ending := by
  cases d <;> decide

/-- A comment that begins and ends like that of a decision, whatever stands between. -/
theorem ofLine?_enclosed (d : Diagnostic) (between : String) {text : String}
    (whole : text = d.opening ++ " " ++ between ++ " " ++ d.ending) :
    ofLine? (Passage.commentText text) = some d := by
  have more : Text.words (d.opening ++ " " ++ between) ≠ [] := by
    rw [Text.words_append]
    exact List.append_ne_nil_of_left_ne_nil d.opening_given _
  have start : d.start <+: (Passage.commentText text).toList := by
    have apart : text = d.opening ++ " " ++ (between ++ " " ++ d.ending) := by
      rw [whole]
      simp only [String.append_assoc]
    rw [apart]
    exact prefix_commentText d.opening d.opening_given d.opening_orderly _
  have ends := Text.suffix_flatten more d.ending
  rw [d.ending_orderly, ← whole] at ends
  refine ofLine?_eq_some start (ends.trans ?_)
  rw [Passage.commentText, String.toList_append]
  exact List.suffix_append _ _

end Diagnostic

namespace Fallback

def diagnostic? : Fallback → Option Diagnostic
  | unknownAction _ => some .unknownAction
  | cycle _ _ _ => some .cycle
  | depthLimit _ _ => some .depthLimit
  | budgetExhausted _ _ => some .budgetExhausted
  | missingModule _ => some .missingModule
  | recursiveModule _ => some .recursiveModule
  | missingEntry _ => some .missingEntry
  | _ => none

theorem ofRecord?_record (entity : String) (f : Fallback) :
    Diagnostic.ofRecord? (f.record entity) = f.diagnostic? := by
  cases f <;> rfl

/-- The comment of a decision tells which one it was. -/
theorem ofLine?_comment {f : Fallback} {text : String} (h : f.comment? = some text) :
    Diagnostic.ofLine? (Passage.commentText text) = f.diagnostic? := by
  cases f with
  | unknownAction action =>
    cases h
    have start := Diagnostic.prefix_commentText "Unknown action:" (by decide) (by decide) action
    exact Diagnostic.ofLine?_eq_some (d := .unknownAction) start List.nil_suffix
  | cycle node _ label =>
    cases h
    refine Diagnostic.ofLine?_enclosed .cycle (node ++ " of module " ++ label) ?_
    simp [← String.toList_inj, Diagnostic.opening, Diagnostic.ending]
  | depthLimit limit _ =>
    cases h
    refine Diagnostic.ofLine?_enclosed .depthLimit ("(" ++ toString limit ++ ")") ?_
    simp [← String.toList_inj, Diagnostic.opening, Diagnostic.ending]
  | budgetExhausted =>
    cases h
    exact Diagnostic.ofLine?_eq_some (d := .budgetExhausted) (by decide) List.nil_suffix
  | missingModule id =>
    cases h
    refine Diagnostic.ofLine?_enclosed .missingModule id ?_
    simp [← String.toList_inj, Diagnostic.opening, Diagnostic.ending]
  | recursiveModule id =>
    cases h
    refine Diagnostic.ofLine?_enclosed .recursiveModule id ?_
    simp [← String.toList_inj, Diagnostic.opening, Diagnostic.ending]
  | missingEntry id =>
    cases h
    refine Diagnostic.ofLine?_enclosed .missingEntry id ?_
    simp [← String.toList_inj, Diagnostic.opening, Diagnostic.ending]
  | _ => cases h

theorem diagnostic?_of_silent {f : Fallback} (h : f.comment? = none) : f.diagnostic? = none := by
  cases f with
  | unknownCondition => rfl
  | unknownNodeCondition => rfl
  | emptyCondition => rfl
  | unhandledTrigger => rfl
  | _ => cases h

end Fallback

/-- What the lines of a piece tell. -/
def Piece.diagnostic? : Piece → Option Diagnostic
  | line text => Diagnostic.ofLine? text
  | comment text => Diagnostic.ofLine? (Passage.commentText text)
  | openBlock (some header) => Diagnostic.ofLine? header
  | _ => none

theorem Phrase.ofLine? {ctx : Context} {names : List String} {text : String}
    (h : Phrase ctx names text) : Diagnostic.ofLine? text = none := by
  refine Diagnostic.ofLine?_eq_none fun d => ?_
  have foreign : NoPhrase d.start := by
    cases d <;> exact ⟨by decide, by decide⟩
  exact h.diverges foreign

theorem Heading.ofLine? {text : String} (h : Heading text) : Diagnostic.ofLine? text = none := by
  refine Diagnostic.ofLine?_eq_none fun d => ?_
  have foreign : NoHeading d.start := by
    cases d <;> exact ⟨by decide, .inl (by decide)⟩
  exact h.diverges foreign

theorem ServiceCall.ofLine? (c : ServiceCall) (mode : ServiceMode) (rest : String) :
    Diagnostic.ofLine? (c.render mode ++ rest) = none := by
  refine Diagnostic.ofLine?_eq_none fun d => (c.begins_render mode rest).diverges ?_
  cases d <;> decide

/-- Of what is said in code, only comments tell of decisions. -/
theorem Piece.Said.diagnostic? {ctx : Context} {names : List String} {piece : Piece}
    (h : piece.Said ctx names) (code : ∀ text, piece ≠ .comment text) : piece.diagnostic? = none := by
  cases piece with
  | line text =>
    rcases h with phrase | ⟨c, rfl⟩
    · exact phrase.ofLine?
    · exact c.ofLine? _ _
  | comment text => exact absurd rfl (code text)
  | openBlock header =>
    cases header with
    | none => rfl
    | some text => exact Heading.ofLine? h
  | indent => rfl
  | close => rfl
  | suspend => rfl

namespace Writer

/-- What the lines tell that a piece adds. -/
theorem step_diagnostics (w : Writer) (piece : Piece) :
    ∃ added, (w.step piece).lines.toList = w.lines.toList ++ added ∧
      added.filterMap (fun line => Diagnostic.ofLine? line.text) = piece.diagnostic?.toList := by
  have brace (text : String) (h : text = "\x7b" ∨ text = "\x7d") :
      Diagnostic.ofLine? text = none := by
    rcases h with rfl | rfl <;> decide
  have single (depth : Int) (text : String) :
      [Line.mk depth text].filterMap (fun line => Diagnostic.ofLine? line.text) =
        (Diagnostic.ofLine? text).toList := by
    cases h : Diagnostic.ofLine? text <;> simp [h]
  cases piece with
  | line text => exact ⟨[⟨w.depth, text⟩], by simp [step, line], single _ _⟩
  | comment text =>
    exact ⟨[⟨w.depth, Passage.commentText text⟩],
      by simp [step, comment, line, Passage.commentText], single _ _⟩
  | openBlock header =>
    cases header with
    | none =>
      refine ⟨[⟨w.depth, "\x7b"⟩], by simp [step, openBlock, line, enter], ?_⟩
      rw [single, brace _ (.inl rfl)]
      rfl
    | some text =>
      refine ⟨[⟨w.depth, text⟩, ⟨w.depth, "\x7b"⟩], by simp [step, openBlock, line, enter], ?_⟩
      rw [← List.singleton_append, List.filterMap_append, single, single, brace _ (.inl rfl)]
      exact List.append_nil _
  | indent => exact ⟨[], by simp [step, enter], rfl⟩
  | suspend => exact ⟨[], by simp [step], rfl⟩
  | close =>
    change ∃ added, w.close.lines.toList = _ ∧ _
    unfold close
    split
    next => exact ⟨[], by simp, rfl⟩
    next =>
      refine ⟨[⟨w.depth - 1, "\x7d"⟩], by simp [line], ?_⟩
      rw [single, brace _ (.inr rfl)]
      rfl
    next => exact ⟨[], by simp, rfl⟩

theorem run_diagnostics (w : Writer) (pieces : List Piece) :
    ∃ added, (w.run pieces).lines.toList = w.lines.toList ++ added ∧
      added.filterMap (fun line => Diagnostic.ofLine? line.text) =
        pieces.filterMap Piece.diagnostic? := by
  induction pieces generalizing w with
  | nil => exact ⟨[], (List.append_nil _).symm, rfl⟩
  | cons piece pieces ih =>
    obtain ⟨first, hf, told⟩ := w.step_diagnostics piece
    obtain ⟨rest, hr, told'⟩ := ih (w.step piece)
    refine ⟨first ++ rest, ?_, ?_⟩
    · change ((w.step piece).run pieces).lines.toList = _
      rw [hr, hf, List.append_assoc]
    · rw [List.filterMap_append, told, told', List.filterMap_cons]
      cases piece.diagnostic? <;> rfl

end Writer

end GraphScript
