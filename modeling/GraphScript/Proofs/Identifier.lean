import GraphScript.Proofs.RoundTrip
import GraphScript.Proofs.Word

namespace GraphScript

namespace Text

theorem mem_of_inRanges {table : List (Nat × Nat)} {n : Nat} (h : inRanges table n = true) :
    n ∈ table.flatMap fun range => List.range' range.1 (range.2 + 1 - range.1) := by
  induction table with
  | nil => cases h
  | cons range table ih =>
    rw [List.flatMap_cons, List.mem_append]
    unfold inRanges at h
    split at h
    next => cases h
    next low =>
      split at h
      next high => exact .inl (List.mem_range'_1.mpr (by omega))
      next => exact .inr (ih h)

theorem isBlank_of_isWord {c : Char} (word : isWord c = true) : isBlank c = false := by
  -- the blanks are few enough to look at each of them, which the characters of words are not
  have apart : ((blanks.flatMap fun range => List.range' range.1 (range.2 + 1 - range.1)).all
      fun n => !isWord (Char.ofNat n)) = true := by
    decide +kernel
  rw [Bool.eq_false_iff]
  intro blank
  have outside := List.all_eq_true.mp apart _ (mem_of_inRanges blank)
  rw [Char.ofNat_toNat, word] at outside
  cases outside

end Text

namespace CSharp

/-- The letters of an identifier that is not marked. -/
structure IsBare (cs : List Char) : Prop where
  word : ∀ c ∈ cs, Text.isWord c = true
  start : startsWithDigit cs = false
  nonempty : cs ≠ []

/-- The identifier for a word: reserved words are marked. -/
def marked (word : String) : String :=
  if isKeyword word then "@" ++ word else word

theorem startsWithDigit_wordForm (cs : List Char) : startsWithDigit (wordForm cs) = false := by
  unfold wordForm
  dsimp only
  split
  next =>
    change Text.isDigit '_' = false
    decide
  next other => exact Bool.eq_false_iff.mpr other

theorem map_of_isWord {cs : List Char} (h : ∀ c ∈ cs, Text.isWord c = true) :
    (cs.map fun c => if Text.isWord c then c else '_') = cs :=
  (List.map_congr_left fun c hc => if_pos (h c hc)).trans (List.map_id _)

theorem IsBare.wordForm_eq {cs : List Char} (h : IsBare cs) : wordForm cs = cs := by
  unfold wordForm
  dsimp only
  rw [map_of_isWord h.word, if_neg (Bool.eq_false_iff.mp h.start)]

theorem wordForm_eq_nil_iff {cs : List Char} : wordForm cs = [] ↔ cs = [] := by
  unfold wordForm
  dsimp only
  split
  next digit =>
    have some : cs ≠ [] := by
      rintro rfl
      cases digit
    simp [some]
  next => exact List.map_eq_nil_iff

theorem trim_eq_empty_iff {name : String} :
    Text.trim name = "" ↔ Text.trimList Text.isBlank name.toList = [] := by
  rw [← String.toList_inj, Text.trim, String.toList_ofList]
  rfl

/-- A name of nothing but blanks gives way to the fallback. -/
theorem sanitizeOr_of_blank {name : String} (blank : Text.trim name = "") (fallback : String) :
    sanitizeOr fallback name = fallback := by
  have nothing : wordForm (Text.trimList Text.isBlank name.toList) = [] :=
    wordForm_eq_nil_iff.mpr (trim_eq_empty_iff.mp blank)
  unfold sanitizeOr
  dsimp only
  rw [nothing]
  rfl

/-- Any other name becomes a bare word, whatever the fallback is, with the mark if it is reserved. -/
theorem sanitizeOr_of_named {name : String} (named : Text.trim name ≠ "") :
    ∃ cs, IsBare cs ∧ ∀ fallback, sanitizeOr fallback name = marked (String.ofList cs) := by
  have some : wordForm (Text.trimList Text.isBlank name.toList) ≠ [] := fun nothing =>
    named (trim_eq_empty_iff.mpr (wordForm_eq_nil_iff.mp nothing))
  refine ⟨_, ⟨isWord_of_mem_wordForm, startsWithDigit_wordForm _, some⟩, fun fallback => ?_⟩
  unfold sanitizeOr
  dsimp only
  rw [if_neg (by simpa using some)]
  rfl

/-- Whatever is sanitized is a bare word, up to the mark. -/
theorem sanitize_isBare (name : String) :
    ∃ cs, IsBare cs ∧ sanitize name = marked (String.ofList cs) := by
  by_cases blank : Text.trim name = ""
  · have letters : "unnamed".toList.all Text.isWord = true := by decide
    refine ⟨"unnamed".toList, ⟨List.all_eq_true.mp letters, by decide, by decide⟩, ?_⟩
    rw [sanitize, sanitizeOr_of_blank blank]
    decide
  · obtain ⟨cs, bare, own⟩ := sanitizeOr_of_named blank
    exact ⟨cs, bare, own "unnamed"⟩

theorem IsBare.sanitize_eq {cs : List Char} (h : IsBare cs) :
    sanitize (String.ofList cs) = marked (String.ofList cs) := by
  have whole : Text.trimList Text.isBlank cs = cs :=
    trimList_of_none fun c hc => Text.isBlank_of_isWord (h.word c hc)
  unfold sanitize sanitizeOr
  dsimp only
  rw [String.toList_ofList, whole, h.wordForm_eq, if_neg (by simpa using h.nonempty)]
  rfl

/-- The mark of a reserved word is no letter, so it does not survive. -/
theorem sanitize_mark {word : String} (reserved : word ∈ keywords) :
    sanitize ("@" ++ word) = "_" ++ word := by
  have letters : (keywords.all fun word => word.toList.all Text.isWord) = true := by decide +kernel
  have starts : (keywords.all fun word => word.toList.head? != some '_') = true := by decide +kernel
  have own : ∀ c ∈ word.toList, Text.isWord c = true :=
    List.all_eq_true.mp (List.all_eq_true.mp letters word reserved)
  have whole : Text.trimList Text.isBlank ('@' :: word.toList) = '@' :: word.toList :=
    trimList_of_none (List.forall_mem_cons.mpr
      ⟨by decide, fun c hc => Text.isBlank_of_isWord (own c hc)⟩)
  have form : wordForm ('@' :: word.toList) = '_' :: word.toList := by
    have mark : Text.isWord '@' = false := by decide
    have digit : Text.isDigit '_' = false := by decide
    simp [wordForm, startsWithDigit, map_of_isWord own, mark, digit]
  have free : ¬isKeyword (String.ofList ('_' :: word.toList)) = true := by
    intro other
    have first := List.all_eq_true.mp starts _ (List.contains_iff_mem.mp other)
    rw [String.toList_ofList] at first
    cases first
  have text : ("@" ++ word).toList = '@' :: word.toList := by simp
  unfold sanitize sanitizeOr
  dsimp only
  rw [text, whole, form, if_neg (by simp), if_neg free]
  simp

/-- What is sanitized and not marked stays as it is. -/
theorem sanitize_sanitize {name : String}
    (unmarked : ∀ word ∈ keywords, sanitize name ≠ "@" ++ word) :
    sanitize (sanitize name) = sanitize name := by
  obtain ⟨cs, bare, own⟩ := sanitize_isBare name
  have free : isKeyword (String.ofList cs) = false := by
    rw [Bool.eq_false_iff]
    intro reserved
    refine unmarked _ (List.contains_iff_mem.mp reserved) ?_
    rw [own, marked, if_pos reserved]
  have same : sanitize name = String.ofList cs := by
    rw [own, marked, if_neg (Bool.eq_false_iff.mp free)]
  rw [same, bare.sanitize_eq, ← own, same]

/-- A word without the mark in front of it, if there is one. -/
def withoutMark : List Char → List Char
  | '@' :: word => word
  | word => word

/-- The form of an identifier: a bare word, which is reserved exactly if it has the mark. -/
structure IsIdentifier (text : String) : Prop where
  bare : IsBare (withoutMark text.toList)
  reserved : isKeyword (String.ofList (withoutMark text.toList)) = true ↔
    text.toList.head? = some '@'

/-- No letter of a bare word is the mark. -/
theorem IsBare.mark_not_mem {cs : List Char} (h : IsBare cs) : '@' ∉ cs := fun mark =>
  Bool.false_ne_true (h.word '@' mark)

theorem IsBare.withoutMark_eq {cs : List Char} (h : IsBare cs) : withoutMark cs = cs := by
  unfold withoutMark
  split
  next word => exact absurd List.mem_cons_self h.mark_not_mem
  next => rfl

theorem IsBare.isIdentifier {cs : List Char} (h : IsBare cs) :
    IsIdentifier (marked (String.ofList cs)) := by
  unfold marked
  split
  next reserved =>
    have letters : ("@" ++ String.ofList cs).toList = '@' :: cs := by simp
    refine ⟨?_, ?_⟩
    · rw [letters]
      exact h
    · rw [letters]
      exact iff_of_true reserved rfl
  next free =>
    have unmarked : cs.head? ≠ some '@' := fun mark => h.mark_not_mem (List.mem_of_mem_head? mark)
    refine ⟨?_, ?_⟩
    · rw [String.toList_ofList, h.withoutMark_eq]
      exact h
    · rw [String.toList_ofList, h.withoutMark_eq]
      exact iff_of_false free unmarked

theorem IsIdentifier.eq_marked {text : String} (h : IsIdentifier text) :
    text = marked (String.ofList (withoutMark text.toList)) := by
  unfold marked
  split
  next reserved =>
    obtain ⟨word, letters⟩ := List.head?_eq_some_iff.mp (h.reserved.mp reserved)
    rw [← String.toList_inj, letters]
    simp [withoutMark]
  next free =>
    have unmarked := mt h.reserved.mpr free
    rw [← String.toList_inj, String.toList_ofList]
    unfold withoutMark
    split
    next word letters => exact absurd (congrArg List.head? letters) unmarked
    next => rfl

/-- The texts that sanitizing gives are those that have the form of an identifier. -/
theorem isIdentifier_iff_sanitize {text : String} :
    IsIdentifier text ↔ ∃ name, sanitize name = text := by
  constructor
  · intro h
    exact ⟨_, h.bare.sanitize_eq.trans h.eq_marked.symm⟩
  · rintro ⟨name, rfl⟩
    obtain ⟨cs, bare, own⟩ := sanitize_isBare name
    rw [own]
    exact bare.isIdentifier

/-- Only bare words that are not reserved stay as they are. -/
theorem sanitize_eq_self_iff {word : String} :
    sanitize word = word ↔ IsBare word.toList ∧ isKeyword word = false := by
  constructor
  · intro same
    obtain ⟨cs, bare, own⟩ := sanitize_isBare word
    rw [same, marked] at own
    split at own
    next reserved =>
      have fallen := sanitize_mark (List.contains_iff_mem.mp reserved)
      rw [← own, same] at fallen
      rw [own, ← String.toList_inj] at fallen
      simp at fallen
    next free =>
      rw [own, String.toList_ofList]
      exact ⟨bare, Bool.eq_false_iff.mpr free⟩
  · rintro ⟨bare, free⟩
    have own := bare.sanitize_eq
    rwa [String.ofList_toList, marked, if_neg (Bool.eq_false_iff.mp free)] at own

/-- Every name, also a missing one, is given the form of an identifier. A name of nothing but blanks
gives way to the fallback. Any other name becomes, behind the mark if there is one, a word that does
not start with a digit and is reserved exactly if it is marked, whatever the fallback is. All words of
this form come out, and those that are not reserved are the names that stay as they are. -/
theorem sanitize_gives_identifier (name : Option String) (fallback : String) :
    (Text.trim (name.getD "") = "" →
      sanitizeOr fallback (name.getD "") = fallback ∧ sanitize (name.getD "") = "unnamed") ∧
    (Text.trim (name.getD "") ≠ "" →
      IsIdentifier (sanitize (name.getD "")) ∧
        sanitizeOr fallback (name.getD "") = sanitize (name.getD "")) ∧
    (∀ text, IsIdentifier text ↔ ∃ given, sanitize given = text) ∧
    ∀ word, sanitize word = word ↔ IsBare word.toList ∧ isKeyword word = false := by
  refine ⟨fun blank => ?_, fun named => ?_, fun _ => isIdentifier_iff_sanitize,
    fun _ => sanitize_eq_self_iff⟩
  · exact ⟨sanitizeOr_of_blank blank fallback, sanitizeOr_of_blank blank "unnamed"⟩
  · obtain ⟨cs, -, own⟩ := sanitizeOr_of_named named
    exact ⟨isIdentifier_iff_sanitize.mpr ⟨_, rfl⟩, (own fallback).trans (own "unnamed").symm⟩

theorem sanitize_gives_identifier_padded :
    Text.trim "\t" = "" ∧ sanitizeOr "item" "\t" = "item" ∧
      Text.trim " class " ≠ "" ∧ sanitize " class " = "@class" ∧ IsIdentifier "@class" ∧
      sanitize "_2_lives" = "_2_lives" := by
  have blank : Text.trim "\t" = "" := by decide
  have named : Text.trim " class " ≠ "" := by decide
  have word : IsBare "_2_lives".toList :=
    ⟨List.all_eq_true.mp (by decide), by decide, by decide⟩
  obtain ⟨fallen, -, -, kept⟩ := sanitize_gives_identifier (some "\t") "item"
  obtain ⟨-, formed, -, -⟩ := sanitize_gives_identifier (some " class ") "item"
  have escaped : sanitize " class " = "@class" := by decide
  exact ⟨blank, (fallen blank).1, named, escaped, escaped ▸ (formed named).1,
    (kept "_2_lives").mpr ⟨word, by decide⟩⟩

end CSharp

end GraphScript
