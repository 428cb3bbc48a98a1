import GraphScript.CSharp.Identifier
import GraphScript.Proofs.NumberLiteral
import GraphScript.Text.Identifier

namespace GraphScript.CSharp

/-- The characters that end a line. -/
def lineBreaks : List Char :=
  ['\n', '\r', '\u0085', '\u2028', '\u2029']

/-- The characters that can end a word, or the code around it. -/
def marks : List Char :=
  lineBreaks ++ [' ', '"', '(', ')']

/-- A text that holds no marks. -/
abbrev Unmarked (text : String) : Prop :=
  (text.toList.all fun c => !marks.contains c) = true

theorem unmarked_iff {text : String} : Unmarked text ↔ ∀ c ∈ text.toList, c ∉ marks := by
  simp [Unmarked, List.all_eq_true]

theorem Unmarked.append {first second : String} (h : Unmarked first) (h' : Unmarked second) :
    Unmarked (first ++ second) := by
  rw [Unmarked, String.toList_append, List.all_append, h, h']
  rfl

/-- A text is unmarked if a class of characters that leaves out the marks holds all of it. -/
theorem unmarked_of_class {p : Char → Bool} (apart : marks.all (fun m => !p m) = true)
    {text : String} (h : ∀ c ∈ text.toList, p c = true) : Unmarked text := by
  refine unmarked_iff.mpr fun c hc hm => ?_
  have outside := List.all_eq_true.mp apart c hm
  rw [h c hc] at outside
  cases outside

/-- The characters of which numbers are written. -/
def isNumeral (c : Char) : Bool :=
  c.isDigit || ['.', '-', '+', 'e', 'i', 'n', 'f', 'a'].contains c

/-- A text that is written like a number. -/
abbrev Numeric (text : String) : Prop :=
  text.toList.all isNumeral = true

theorem Numeric.append {first second : String} (h : Numeric first) (h' : Numeric second) :
    Numeric (first ++ second) := by
  rw [Numeric, String.toList_append, List.all_append, h, h']
  rfl

theorem Numeric.unmarked {text : String} (h : Numeric text) : Unmarked text :=
  unmarked_of_class (by decide) (List.all_eq_true.mp h)

theorem numeric_ofList {cs : List Char} (h : AllDigits cs) : Numeric (String.ofList cs) := by
  refine List.all_eq_true.mpr fun c hc => ?_
  rw [String.toList_ofList] at hc
  exact Bool.or_eq_true_iff.mpr (.inl (h c hc))

theorem numeric_nat (n : Nat) : Numeric (toString n) := by
  rw [Nat.toString_eq_ofList_toDigits]
  exact numeric_ofList (Decimal.allDigits_toDigits n)

theorem numeric_int (n : Int) : Numeric (toString n) := by
  cases n with
  | ofNat n => exact numeric_nat n
  | negSucc n =>
    have minus : Numeric "-" := by decide
    exact minus.append (numeric_nat (n + 1))

theorem numeric_exponentText (exponent : Int) : Numeric (Decimal.exponentText exponent) := by
  have digits := numeric_nat exponent.natAbs
  have zero : Numeric "0" := by decide
  unfold Decimal.exponentText
  refine Numeric.append ?_ ?_
  · split <;> decide
  · split
    next => exact zero.append digits
    next => exact digits

theorem numeric_write (layout : Decimal.Layout) (d : Decimal) : Numeric (d.write layout) := by
  have all := Decimal.allDigits_toDigits d.digits
  have taken (n : Nat) : Numeric (String.ofList ((Nat.toDigits 10 d.digits).take n)) :=
    numeric_ofList fun c hc => all c (List.mem_of_mem_take hc)
  have dropped (n : Nat) : Numeric (String.ofList ((Nat.toDigits 10 d.digits).drop n)) :=
    numeric_ofList fun c hc => all c (List.mem_of_mem_drop hc)
  have zeros (n : Nat) : Numeric (Decimal.zeros n) :=
    numeric_ofList (Decimal.allDigits_replicate n)
  have point : Numeric "." := by decide
  unfold Decimal.write
  dsimp only
  split
  next =>
    refine ((taken 1).append ?_).append (numeric_exponentText _)
    split
    next => decide
    next => exact point.append (dropped 1)
  next =>
    split
    next =>
      have start : Numeric "0." := by decide
      exact (start.append (zeros _)).append (numeric_ofList all)
    next =>
      split
      next =>
        refine ((numeric_ofList all).append (zeros _)).append ?_
        split <;> decide
      next => exact ((taken _).append point).append (dropped _)

theorem numeric_text (x : Binary64) : Numeric x.text := by
  have sign (negative : Bool) : Numeric (Binary64.signText negative) := by
    cases negative <;> decide
  cases x with
  | finite negative mantissa exponent canonical =>
    refine (sign negative).append ?_
    split
    next => decide
    next => exact numeric_write _ _
  | infinite negative =>
    have name : Numeric "inf" := by decide
    exact (sign negative).append name
  | undefined =>
    change Numeric "nan"
    decide

theorem numeric_floatLiteral (x : Binary64) : Numeric (floatLiteral x) := by
  have suffix : Numeric "f" := by decide
  unfold floatLiteral
  split
  next => decide
  next =>
    split
    next => exact (numeric_int _).append suffix
    next => exact (numeric_text x).append suffix

theorem unmarked_nat (n : Nat) : Unmarked (toString n) :=
  (numeric_nat n).unmarked

theorem unmarked_int (n : Int) : Unmarked (toString n) :=
  (numeric_int n).unmarked

theorem unmarked_floatLiteral (x : Binary64) : Unmarked (floatLiteral x) :=
  (numeric_floatLiteral x).unmarked

theorem unmarked_boolLiteral (b : Bool) : Unmarked (boolLiteral b) := by
  cases b <;> decide

theorem isWord_of_mem_wordForm {cs : List Char} : ∀ c ∈ wordForm cs, Text.isWord c = true := by
  have mapped (c : Char) : Text.isWord (if Text.isWord c then c else '_') = true := by
    split
    next letter => exact letter
    next => decide
  intro c hc
  unfold wordForm at hc
  dsimp only at hc
  have inner (hm : c ∈ cs.map fun d => if Text.isWord d then d else '_') :
      Text.isWord c = true := by
    obtain ⟨d, -, rfl⟩ := List.mem_map.mp hm
    exact mapped d
  split at hc
  next =>
    rcases List.mem_cons.mp hc with rfl | hc
    · decide
    · exact inner hc
  next => exact inner hc

/-- What sanitizing leaves: word characters, and the mark of reserved words. -/
theorem sanitize_chars (name : String) :
    ∀ c ∈ (sanitize name).toList, (Text.isWord c || c == '@') = true := by
  intro c hc
  unfold sanitize sanitizeOr at hc
  dsimp only at hc
  split at hc
  next =>
    have fallback : "unnamed".toList.all Text.isWord = true := by decide
    simp [List.all_eq_true.mp fallback c hc]
  next =>
    split at hc
    next =>
      rw [String.toList_append] at hc
      rcases List.mem_append.mp hc with hc | hc
      · have mark : c = '@' := List.mem_singleton.mp hc
        simp [mark]
      · rw [String.toList_ofList] at hc
        simp [isWord_of_mem_wordForm c hc]
    next =>
      rw [String.toList_ofList] at hc
      simp [isWord_of_mem_wordForm c hc]

theorem identifier_chars {text : String} (h : Text.isIdentifier text = true) :
    ∀ c ∈ text.toList, (Text.isIdentifierStart c || Text.isIdentifierContinue c) = true := by
  unfold Text.isIdentifier at h
  split at h
  next => cases h
  next c rest heq =>
    obtain ⟨first, others⟩ := Bool.and_eq_true_iff.mp h
    intro d hd
    rw [heq] at hd
    rcases List.mem_cons.mp hd with rfl | hd
    · simp [first]
    · simp [List.all_eq_true.mp others d hd]

/-- The characters of code between names that are no marks. -/
def punctuation : List Char :=
  ['.', '\x7b', '\x7d', '\'', '/', '=', '!', '<', '>', ';']

/-- A name of the generated code, of a variable or a field. -/
structure IsName (text : String) : Prop where
  unmarked : Unmarked text
  plain : ∀ c ∈ punctuation, c ∉ text.toList

/-- A text is a name if a class of characters that leaves out all others holds all of it. -/
theorem isName_of_class {p : Char → Bool}
    (apart : (punctuation ++ marks).all (fun m => !p m) = true) {text : String}
    (h : ∀ c ∈ text.toList, p c = true) : IsName text := by
  rw [List.all_append, Bool.and_eq_true_iff] at apart
  refine ⟨unmarked_of_class apart.2 h, fun c hc hm => ?_⟩
  have outside := List.all_eq_true.mp apart.1 c hc
  rw [h c hm] at outside
  cases outside

set_option maxRecDepth 4000 in
theorem isName_sanitize (name : String) : IsName (sanitize name) :=
  isName_of_class (by decide) (sanitize_chars name)

set_option maxRecDepth 4000 in
theorem isName_identifier {text : String} (h : Text.isIdentifier text = true) : IsName text :=
  isName_of_class (by decide) (identifier_chars h)

/-- Behind its given start the name of a class has plain letters only. -/
theorem className_chars (start id : String) :
    ∃ name, (∀ c ∈ name.toList, (isPlainLetter c || c == '_') = true) ∧
      className start id = start ++ name := by
  refine ⟨_, fun c hc => ?_, rfl⟩
  rw [String.toList_ofList] at hc
  obtain ⟨d, -, rfl⟩ := List.mem_map.mp hc
  split
  next letter => simp [letter]
  next => rfl

theorem className_eq (start id : String) :
    ∃ name, IsName name ∧ className start id = start ++ name := by
  obtain ⟨name, letters, own⟩ := className_chars start id
  exact ⟨name, isName_of_class (p := fun c => isPlainLetter c || c == '_') (by decide) letters, own⟩

/-- Whether two lines differ at a place that both have, so that they differ whatever follows. -/
def diverges : List Char → List Char → Bool
  | c :: cs, d :: ds => if c = d then diverges cs ds else true
  | _, _ => false

theorem diverges_append {cs ds : List Char} (h : diverges cs ds = true) (more rest : List Char) :
    diverges (cs ++ more) (ds ++ rest) = true := by
  induction cs generalizing ds with
  | nil => cases h
  | cons c cs ih =>
    cases ds with
    | nil => cases h
    | cons d ds =>
      rw [List.cons_append, List.cons_append, diverges]
      rw [diverges] at h
      split
      next same => exact ih (by rwa [if_pos same] at h)
      next => rfl

theorem diverges_common (common cs ds : List Char) :
    diverges (common ++ cs) (common ++ ds) = diverges cs ds := by
  induction common with
  | nil => rfl
  | cons c common ih => rw [List.cons_append, List.cons_append, diverges, if_pos rfl, ih]

theorem diverges_of_start {cs ds es : List Char} (h : diverges cs ds = true) (hp : ds <+: es) :
    diverges cs es = true := by
  obtain ⟨rest, rfl⟩ := hp
  have both := diverges_append h [] rest
  rwa [List.append_nil] at both

theorem diverges_of_head {c d : Char} {cs ds : List Char} (h : ds.head? = some d) (other : c ≠ d) :
    diverges (c :: cs) ds = true := by
  obtain ⟨rest, rfl⟩ := List.head?_eq_some_iff.mp h
  rw [diverges, if_neg other]

theorem not_prefix_of_diverges {cs ds : List Char} (h : diverges cs ds = true) : ¬ cs <+: ds := by
  rintro ⟨more, rfl⟩
  induction cs with
  | nil => cases h
  | cons c cs ih =>
    rw [List.cons_append, diverges, if_pos rfl] at h
    exact ih h

/-- Lines that start with different words, each followed by a stop that is in none of them. -/
theorem diverges_of_ne {word other : List Char} {stop : Char} (hw : stop ∉ word)
    (ho : stop ∉ other) (different : other ≠ word) (more rest : List Char) :
    diverges (other ++ stop :: more) (word ++ stop :: rest) = true := by
  induction other generalizing word with
  | nil =>
    cases word with
    | nil => exact absurd rfl different
    | cons d word =>
      have apart : stop ≠ d := fun h => hw (h ▸ List.mem_cons_self)
      simp [diverges, apart]
  | cons c other ih =>
    obtain ⟨hc, ho⟩ : stop ≠ c ∧ stop ∉ other := by simpa using ho
    cases word with
    | nil => simp [diverges, Ne.symm hc]
    | cons d word =>
      have behind : stop ∉ word := fun hm => hw (List.mem_cons_of_mem _ hm)
      rw [List.cons_append, List.cons_append, diverges]
      split
      next same =>
        subst same
        exact ih behind ho fun h => different (congrArg _ h)
      next => rfl

/-- Lines whose first words are followed by different characters. -/
theorem diverges_of_next (other : List Char) {word : List Char} {stop c d : Char} (hw : stop ∉ word)
    (ho : stop ∉ other) (different : c ≠ d) (more rest : List Char) :
    diverges (other ++ stop :: c :: more) (word ++ stop :: d :: rest) = true := by
  by_cases same : other = word
  · subst same
    rw [diverges_common]
    simp [diverges, different]
  · exact diverges_of_ne hw ho same (c :: more) (d :: rest)

end GraphScript.CSharp
