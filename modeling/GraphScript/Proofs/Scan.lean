import GraphScript.Proofs.StringLiteral

namespace GraphScript

namespace CSharp

/-- Where the reader of a line is. `depth` counts the open parentheses of the code. -/
inductive Reading where
  | code (depth : Nat)
  | literal (depth : Nat)
  /-- After a backslash in a literal. -/
  | escape (depth : Nat)
  /-- In an escape by number, with `left` more digits after the next one. -/
  | digits (left depth : Nat)
deriving DecidableEq, Repr

namespace Reading

/-- Reads one character, unless it may not stand here. -/
def next : Reading → Char → Option Reading
  | code depth, c =>
    if lineBreaks.contains c then none
    else if c = '"' then some (literal depth)
    else if c = '(' then some (code (depth + 1))
    else if c = ')' then
      match depth with
      | 0 => none
      | depth + 1 => some (code depth)
    else some (code depth)
  | literal depth, c =>
    if lineBreaks.contains c then none
    else if c = '"' then some (code depth)
    else if c = '\\' then some (escape depth)
    else some (literal depth)
  | escape depth, c =>
    if c = 'u' then some (digits 3 depth)
    else if escapes.contains c then some (literal depth)
    else none
  | digits left depth, c =>
    if isHexDigit c then
      match left with
      | 0 => some (literal depth)
      | left + 1 => some (digits left depth)
    else none

def reads (r : Reading) : List Char → Option Reading
  | [] => some r
  | c :: cs => (r.next c).bind fun r => r.reads cs

theorem reads_append (r : Reading) (xs ys : List Char) :
    r.reads (xs ++ ys) = (r.reads xs).bind fun r => r.reads ys := by
  induction xs generalizing r with
  | nil => rfl
  | cons x xs ih =>
    cases hx : r.next x with
    | none => simp [reads, hx]
    | some r' => simp [reads, hx, ih]

/-- The same place inside further parentheses. -/
def raise (n : Nat) : Reading → Reading
  | code depth => code (depth + n)
  | literal depth => literal (depth + n)
  | escape depth => escape (depth + n)
  | digits left depth => digits left (depth + n)

theorem next_raise {r r' : Reading} {c : Char} (h : r.next c = some r') (n : Nat) :
    (r.raise n).next c = some (r'.raise n) := by
  cases r with
  | code depth =>
    simp only [raise, next] at h ⊢
    by_cases closing : c = ')'
    · -- only here the depth matters: there is one to close
      subst closing
      cases depth with
      | zero => simp at h
      | succ depth =>
        rw [Nat.add_right_comm]
        grind
    · grind
  | literal depth =>
    simp only [raise, next] at h ⊢
    grind
  | escape depth =>
    simp only [raise, next] at h ⊢
    grind
  | digits left depth =>
    simp only [raise, next] at h ⊢
    cases left <;> grind

theorem reads_raise {r r' : Reading} {cs : List Char} (h : r.reads cs = some r') (n : Nat) :
    (r.raise n).reads cs = some (r'.raise n) := by
  induction cs generalizing r with
  | nil =>
    cases h
    rfl
  | cons c cs ih =>
    obtain ⟨s, hs, h⟩ := Option.bind_eq_some_iff.mp h
    rw [reads, next_raise hs]
    exact ih h

/-- What is read is not the end of a line. -/
theorem not_mem_lineBreaks_of_next {r r' : Reading} {c : Char} (h : r.next c = some r') :
    c ∉ lineBreaks := by
  intro hc
  cases r with
  | code depth => simp [next, hc] at h
  | literal depth => simp [next, hc] at h
  | escape depth =>
    have none : ∀ c ∈ lineBreaks, next (escape depth) c = none := by
      simp [lineBreaks, next, escapes]
    rw [none c hc] at h
    cases h
  | digits left depth =>
    have none : lineBreaks.all (fun c => !isHexDigit c) = true := by decide
    have other : isHexDigit c = false := by simpa using List.all_eq_true.mp none c hc
    simp [next, other] at h

end Reading

open Reading

/-- A text that ends what it opens, and nothing else. -/
def Neutral (text : String) : Prop :=
  (code 0).reads text.toList = some (code 0)

instance (text : String) : Decidable (Neutral text) :=
  inferInstanceAs (Decidable (_ = _))

theorem Neutral.reads {text : String} (h : Neutral text) (depth : Nat) :
    (code depth).reads text.toList = some (code depth) := by
  have raised := reads_raise h depth
  simpa only [raise, Nat.zero_add] using raised

theorem Neutral.append {first second : String} (h : Neutral first) (h' : Neutral second) :
    Neutral (first ++ second) := by
  rw [Neutral, String.toList_append, reads_append, h]
  exact h'

theorem Neutral.not_mem_lineBreaks {text : String} (h : Neutral text) :
    ∀ c ∈ text.toList, c ∉ lineBreaks := by
  have read (cs : List Char) (r r' : Reading) (h : r.reads cs = some r') :
      ∀ c ∈ cs, c ∉ lineBreaks := by
    induction cs generalizing r with
    | nil => simp
    | cons d cs ih =>
      obtain ⟨s, hs, h⟩ := Option.bind_eq_some_iff.mp h
      exact List.forall_mem_cons.mpr ⟨not_mem_lineBreaks_of_next hs, ih s h⟩
  exact read text.toList _ _ h

theorem Unmarked.neutral {text : String} (h : Unmarked text) : Neutral text := by
  have stays (c : Char) (hc : c ∉ marks) : (code 0).next c = some (code 0) := by
    have kept : ∀ d ∈ marks, d ≠ c := fun d hd he => hc (he ▸ hd)
    have broken : c ∉ lineBreaks := fun hm => hc (List.mem_append_left _ hm)
    simp only [next, List.contains_iff_mem, if_neg broken]
    have quote := kept '"' (by decide)
    have opening := kept '(' (by decide)
    have closing := kept ')' (by decide)
    rw [if_neg quote.symm, if_neg opening.symm, if_neg closing.symm]
  have chars := unmarked_iff.mp h
  unfold Neutral
  generalize text.toList = cs at chars
  induction cs with
  | nil => rfl
  | cons c cs ih =>
    obtain ⟨first, others⟩ := List.forall_mem_cons.mp chars
    rw [reads, stays c first]
    exact ih others

/-- A character as it stands in a literal keeps the reader there. -/
theorem reads_quotedChar (c : Char) :
    (literal 0).reads (quotedChar c).toList = some (literal 0) := by
  refine quotedChar_cases (p := fun cs _ => (literal 0).reads cs = some (literal 0)) ?_ ?_ ?_ c
  · intro c quote backslash _ unbroken
    simp [Reading.reads, next, unbroken, quote, backslash]
  · intro c letter hl _
    have known : escapes.all (fun letter =>
        (literal 0).reads ['\\', letter] = some (literal 0)) = true := by decide
    exact of_decide_eq_true (List.all_eq_true.mp known letter hl)
  · intro c w x y z lower _
    have opened : (literal 0).reads ['\\', 'u'] = some (digits 3 0) := by decide
    have given := reads_append (literal 0) ['\\', 'u'] [w, x, y, z]
    rw [opened] at given
    refine given.trans ?_
    simp only [List.all_cons, Bool.and_eq_true] at lower
    simp [Reading.reads, next, lower]

theorem neutral_quote (text : String) : Neutral (quote text) := by
  have inner (cs : List Char) :
      (literal 0).reads (String.join (cs.map quotedChar)).toList = some (literal 0) := by
    induction cs with
    | nil => rfl
    | cons c cs ih =>
      rw [List.map_cons, String.join_cons, String.toList_append, reads_append, reads_quotedChar]
      exact ih
  have chars : (quote text).toList =
      '"' :: ((String.join (text.toList.map quotedChar)).toList ++ ['"']) := by
    simp [quote]
  have opened : (code 0).next '"' = some (literal 0) := by decide
  rw [Neutral, chars, Reading.reads, opened]
  change (literal 0).reads _ = _
  rw [reads_append, inner]
  decide

/-- A piece of a line: code that is given, or a part that is neutral wherever it stands in code. -/
inductive Fragment where
  | given (chars : List Char)
  | part (text : String) (neutral : Neutral text)

namespace Fragment

def text : Fragment → String
  | given chars => String.ofList chars
  | part text _ => text

def join : List Fragment → String
  | [] => ""
  | first :: rest => rest.foldl (fun line f => line ++ f.text) first.text

/-- Reads a template, whose parts may stand only in code. -/
def balance : Reading → List Fragment → Option Reading
  | r, [] => some r
  | r, given chars :: rest => (r.reads chars).bind fun r => balance r rest
  | .code depth, part _ _ :: rest => balance (.code depth) rest
  | _, part _ _ :: _ => none

theorem reads_of_balance {r r' : Reading} {fragments : List Fragment}
    (h : balance r fragments = some r') :
    r.reads (fragments.flatMap fun f => f.text.toList) = some r' := by
  induction fragments generalizing r with
  | nil => exact h
  | cons f rest ih =>
    rw [List.flatMap_cons, reads_append]
    cases f with
    | given chars =>
      obtain ⟨s, hs, h⟩ := Option.bind_eq_some_iff.mp h
      rw [text, String.toList_ofList, hs]
      exact ih h
    | part text neutral =>
      cases r with
      | code depth =>
        rw [Fragment.text, neutral.reads]
        exact ih h
      | _ => cases h

theorem toList_join (fragments : List Fragment) :
    (join fragments).toList = fragments.flatMap fun f => f.text.toList := by
  have folded (rest : List Fragment) (line : String) :
      (rest.foldl (fun line f => line ++ f.text) line).toList =
        line.toList ++ rest.flatMap fun f => f.text.toList := by
    induction rest generalizing line with
    | nil => simp
    | cons f rest ih => simp [ih]
  cases fragments with
  | nil => rfl
  | cons first rest => exact folded rest first.text

/-- A line starts as its template does. -/
theorem prefix_join (first : List Char) (rest : List Fragment) :
    first <+: (join (given first :: rest)).toList := by
  rw [toList_join, List.flatMap_cons, text, String.toList_ofList]
  exact List.prefix_append _ _

end Fragment

/-- A template that is balanced makes a neutral text of neutral parts. -/
theorem neutral_join (fragments : List Fragment)
    (h : Fragment.balance (.code 0) fragments = some (.code 0)) :
    Neutral (Fragment.join fragments) := by
  rw [Neutral, Fragment.toList_join]
  exact Fragment.reads_of_balance h

theorem Neutral.intercalate {separator : String} (hs : Neutral separator) {parts : List String}
    (h : ∀ part ∈ parts, Neutral part) : Neutral (separator.intercalate parts) := by
  induction parts with
  | nil =>
    rw [String.intercalate_nil]
    rfl
  | cons part rest ih =>
    obtain ⟨first, others⟩ := List.forall_mem_cons.mp h
    cases rest with
    | nil => rwa [String.intercalate_singleton]
    | cons second rest =>
      rw [String.intercalate_cons_cons]
      exact (first.append hs).append (ih others)

/-- A line out of which no text can reach: it is not broken, and it is a comment or it closes all
that it opens. -/
structure Contained (text : String) : Prop where
  unbroken : ∀ c ∈ text.toList, c ∉ lineBreaks
  closed : "//".toList <+: text.toList ∨ Neutral text

theorem Neutral.contained {text : String} (h : Neutral text) : Contained text :=
  ⟨h.not_mem_lineBreaks, .inr h⟩

end CSharp

namespace Text

theorem isBlank_of_mem_wordsFrom {word cs : List Char} (h : ∀ c ∈ word, isBlank c = false) :
    ∀ w ∈ wordsFrom word cs, ∀ c ∈ w, isBlank c = false := by
  have reversed : ∀ c ∈ word.reverse, isBlank c = false := fun c hc => h c (List.mem_reverse.mp hc)
  induction cs generalizing word with
  | nil =>
    intro w hw
    unfold wordsFrom at hw
    split at hw
    next => cases hw
    next =>
      cases List.mem_singleton.mp hw
      exact reversed
  | cons d cs ih =>
    unfold wordsFrom
    split
    next =>
      have fresh := @ih [] (by simp) (by simp)
      split
      next => exact fresh
      next => exact List.forall_mem_cons.mpr ⟨reversed, fresh⟩
    next visible =>
      have grown : ∀ c ∈ d :: word, isBlank c = false :=
        List.forall_mem_cons.mpr ⟨Bool.eq_false_iff.mpr visible, h⟩
      exact ih grown fun c hc => grown c (List.mem_reverse.mp hc)

/-- A flattened text is on one line. -/
theorem not_mem_lineBreaks_of_flatten (text : String) :
    ∀ c ∈ (flatten text).toList, c ∉ CSharp.lineBreaks := by
  have blank : CSharp.lineBreaks.all isBlank = true := by decide
  have space : ' ' ∉ CSharp.lineBreaks := by decide
  have joined (parts : List String) (h : ∀ w ∈ parts, ∀ c ∈ w.toList, isBlank c = false) :
      ∀ c ∈ (" ".intercalate parts).toList, c ∉ CSharp.lineBreaks := by
    have visible (w : String) (hw : w ∈ parts) (c : Char) (hc : c ∈ w.toList) :
        c ∉ CSharp.lineBreaks := by
      intro hb
      have contra := List.all_eq_true.mp blank c hb
      rw [h w hw c hc] at contra
      cases contra
    induction parts with
    | nil => simp
    | cons first rest ih =>
      cases rest with
      | nil =>
        rw [String.intercalate_singleton]
        exact visible first List.mem_cons_self
      | cons second rest =>
        rw [String.intercalate_cons_cons, String.toList_append, String.toList_append]
        refine List.forall_mem_append.mpr ⟨List.forall_mem_append.mpr ⟨?_, ?_⟩, ?_⟩
        · exact visible first List.mem_cons_self
        · exact List.forall_mem_singleton.mpr space
        · exact ih (fun w hw => h w (List.mem_cons_of_mem _ hw)) fun w hw =>
            visible w (List.mem_cons_of_mem _ hw)
  refine joined _ fun w hw c hc => ?_
  obtain ⟨cs, hcs, rfl⟩ := List.mem_map.mp hw
  rw [String.toList_ofList] at hc
  exact isBlank_of_mem_wordsFrom (by simp) cs hcs c hc

end Text

theorem contained_comment (text : String) : CSharp.Contained ("// " ++ Text.flatten text) := by
  have slashes : "// ".toList.all (fun c => !CSharp.lineBreaks.contains c) = true := by decide
  refine ⟨?_, .inl ?_⟩
  · rw [String.toList_append]
    refine List.forall_mem_append.mpr ⟨fun c hc => ?_, Text.not_mem_lineBreaks_of_flatten text⟩
    simpa using List.all_eq_true.mp slashes c hc
  · rw [String.toList_append]
    exact ⟨' ' :: (Text.flatten text).toList, rfl⟩

end GraphScript
