import GraphScript.Proofs.Word

namespace GraphScript.CSharp

def hexDigit? (c : Char) : Option Nat :=
  if '0' ≤ c ∧ c ≤ '9' then some (c.toNat - '0'.toNat)
  else if 'a' ≤ c ∧ c ≤ 'f' then some (c.toNat - 'a'.toNat + 10)
  else if 'A' ≤ c ∧ c ≤ 'F' then some (c.toNat - 'A'.toNat + 10)
  else none

/-- The character with a number of four hexadecimal digits, if there is one. -/
def numbered? : List Char → Option Char
  | [a, b, c, d] => do
    let n := (((← hexDigit? a) * 16 + (← hexDigit? b)) * 16 + (← hexDigit? c)) * 16 + (← hexDigit? d)
    if n.isValidChar then some (Char.ofNat n) else none
  | _ => none

/-- The character that a letter behind a backslash stands for. -/
def escaped? : Char → Option Char
  | '\\' => some '\\'
  | '"' => some '"'
  | 'n' => some '\n'
  | 'r' => some '\r'
  | 't' => some '\t'
  | '0' => some '\x00'
  | _ => none

/-- Reads the inside of a string literal up to the quote that ends it. The answer is the text and what
follows the quote. -/
def readInside? : List Char → Option (List Char × List Char)
  | [] => none
  | '"' :: rest => some ([], rest)
  | '\\' :: 'u' :: a :: b :: c :: d :: rest => do
    let char ← numbered? [a, b, c, d]
    let (text, rest) ← readInside? rest
    return (char :: text, rest)
  | '\\' :: c :: rest => do
    let char ← escaped? c
    let (text, rest) ← readInside? rest
    return (char :: text, rest)
  | c :: rest =>
    if c = '\\' ∨ c ∈ lineBreaks then none
    else do
      let (text, rest) ← readInside? rest
      return (c :: text, rest)

/-- Reads a string literal at the front. -/
def readLiteral? : List Char → Option (String × List Char)
  | '"' :: rest => (readInside? rest).map fun (text, rest) => (String.ofList text, rest)
  | _ => none

def isControl (c : Char) : Bool :=
  c.toNat < 0x20 || (0x7f ≤ c.toNat && c.toNat < 0xa0)

/-- The ways in which a character can stand in a string literal. -/
inductive Spelling : List Char → Char → Prop
  | plain {c : Char} : c ≠ '"' → c ≠ '\\' → isControl c = false → c ∉ lineBreaks → Spelling [c] c
  | escape {letter c : Char} : escaped? letter = some c → Spelling ['\\', letter] c
  | number {digits : List Char} {c : Char} : numbered? digits = some c →
      Spelling ('\\' :: 'u' :: digits) c

theorem numbered?_eq_some {digits : List Char} {c : Char} (h : numbered? digits = some c) :
    ∃ w x y z, digits = [w, x, y, z] := by
  unfold numbered? at h
  split at h
  next w x y z => exact ⟨w, x, y, z, rfl⟩
  next => cases h

/-- A spelling is read as its character, whatever follows. -/
theorem Spelling.read {cs : List Char} {c : Char} (h : Spelling cs c) (rest : List Char) :
    readInside? (cs ++ rest) = (readInside? rest).map fun found => (c :: found.1, found.2) := by
  have same (found : Option (List Char × List Char)) :
      (do let (text, rest) ← found; return (c :: text, rest) : Option (List Char × List Char)) =
        found.map fun found => (c :: found.1, found.2) := by
    cases found <;> rfl
  cases h with
  | plain quote backslash _ unbroken =>
    rw [List.singleton_append, readInside?, if_neg (by simp [backslash, unbroken]), same]
    · exact quote
    · exact fun _ _ _ _ _ h => absurd h backslash
    · exact fun _ _ h => absurd h backslash
  | @escape letter c he =>
    have other : letter ≠ 'u' := by
      rintro rfl
      cases he
    change readInside? ('\\' :: letter :: rest) = _
    rw [readInside?, he, ← same]
    · rfl
    · exact fun _ _ _ _ _ h => absurd h other
  | number hn =>
    obtain ⟨w, x, y, z, rfl⟩ := numbered?_eq_some hn
    change readInside? ('\\' :: 'u' :: w :: x :: y :: z :: rest) = _
    rw [readInside?, hn, ← same]
    rfl

def isHexDigit (c : Char) : Bool :=
  c.isDigit || ('a' ≤ c && c ≤ 'f')

/-- The characters that may follow a backslash, beside the mark of escapes by number. -/
def escapes : List Char :=
  ['\\', '"', 'n', 'r', 't', '0']

/-- Every character stands in a literal as itself, behind a backslash or by a number in lower case. -/
theorem quotedChar_cases {p : List Char → Char → Prop}
    (plain : ∀ c, c ≠ '"' → c ≠ '\\' → isControl c = false → c ∉ lineBreaks → p [c] c)
    (escape : ∀ c, ∀ letter ∈ escapes, escaped? letter = some c → p ['\\', letter] c)
    (number : ∀ c w x y z, [w, x, y, z].all isHexDigit = true → numbered? [w, x, y, z] = some c →
      p ['\\', 'u', w, x, y, z] c) (c : Char) :
    p (quotedChar c).toList c := by
  -- of the characters that are written by number only two are above this range
  have low : ∀ n < 0xa0, (Text.hex 4 n).toList.all isHexDigit = true ∧
      numbered? (Text.hex 4 n).toList = some (Char.ofNat n) := by
    decide +kernel
  have high : ∀ n ∈ [0x2028, 0x2029], (Text.hex 4 n).toList.all isHexDigit = true ∧
      numbered? (Text.hex 4 n).toList = some (Char.ofNat n) := by
    decide
  have numbered (h : (Text.hex 4 c.toNat).toList.all isHexDigit = true ∧
      numbered? (Text.hex 4 c.toNat).toList = some (Char.ofNat c.toNat)) :
      p ("\\u" ++ Text.hex 4 c.toNat).toList c := by
    rw [String.toList_append]
    rw [Char.ofNat_toNat] at h
    obtain ⟨w, x, y, z, digits⟩ := numbered?_eq_some h.2
    rw [digits] at h ⊢
    exact number c w x y z h.1 h.2
  unfold quotedChar
  split
  next same => exact same ▸ escape _ '\\' (by decide) rfl
  next backslash =>
  split
  next same => exact same ▸ escape _ '"' (by decide) rfl
  next quote =>
  split
  next same => exact same ▸ escape _ 'n' (by decide) rfl
  next =>
  split
  next same => exact same ▸ escape _ 'r' (by decide) rfl
  next =>
  split
  next same => exact same ▸ escape _ 't' (by decide) rfl
  next =>
  split
  next zero =>
    have same : c = '\x00' := by
      rw [← Char.ofNat_toNat c, zero]
    exact same ▸ escape _ '0' (by decide) rfl
  next =>
  split
  next control =>
    rcases control with h | h | h | h
    · exact numbered (low _ (by omega))
    · exact numbered (low _ (by omega))
    · exact numbered (high _ (by simp [h]))
    · exact numbered (high _ (by simp [h]))
  next printed =>
    obtain ⟨above, outside, line, paragraph⟩ : ¬c.toNat < 0x20 ∧
        ¬(0x7f ≤ c.toNat ∧ c.toNat < 0xa0) ∧ c.toNat ≠ 0x2028 ∧ c.toNat ≠ 0x2029 := by
      simpa only [not_or] using printed
    have uncontrolled : isControl c = false := by simp [isControl, above]; omega
    have unbroken : c ∉ lineBreaks := by
      simp only [lineBreaks, List.mem_cons, List.not_mem_nil, or_false, not_or]
      refine ⟨?_, ?_, ?_, ?_, ?_⟩ <;> rintro rfl
      · exact above (by decide)
      · exact above (by decide)
      · exact outside (by decide)
      · exact line (by decide)
      · exact paragraph (by decide)
    rw [Char.toString_eq_singleton, String.toList_singleton]
    exact plain c quote backslash uncontrolled unbroken

/-- Every character is spelled in one of the ways that are allowed. -/
theorem spelling_quotedChar (c : Char) : Spelling (quotedChar c).toList c :=
  quotedChar_cases (fun _ => .plain) (fun _ _ _ he => .escape he) (fun _ _ _ _ _ _ hn => .number hn) c

/-- The spelling of a text inside its literal. -/
def inside (text : String) : List Char :=
  text.toList.flatMap fun c => (quotedChar c).toList

theorem quote_toList (text : String) : (quote text).toList = '"' :: (inside text ++ ['"']) := by
  have joined (cs : List Char) :
      (String.join (cs.map quotedChar)).toList = cs.flatMap fun c => (quotedChar c).toList := by
    induction cs with
    | nil => rfl
    | cons c cs ih =>
      rw [List.map_cons, String.join_cons, String.toList_append, ih, List.flatMap_cons]
  simp [quote, inside, joined]

/-- A literal is read as its text, and nothing behind it is touched. -/
theorem readLiteral?_quote (text : String) (rest : List Char) :
    readLiteral? ((quote text).toList ++ rest) = some (text, rest) := by
  have read (cs : List Char) :
      readInside? (cs.flatMap (fun c => (quotedChar c).toList) ++ '"' :: rest) = some (cs, rest) := by
    induction cs with
    | nil => rfl
    | cons c cs ih =>
      rw [List.flatMap_cons, List.append_assoc, (spelling_quotedChar c).read, ih]
      rfl
  rw [quote_toList]
  change (readInside? ((inside text ++ ['"']) ++ rest)).map _ = _
  rw [List.append_assoc, List.singleton_append, inside, read]
  simp

/-- Whether a character can be seen in a line, as a plain letter can. -/
def IsGraphic (c : Char) : Prop :=
  isControl c = false ∧ c ∉ lineBreaks

theorem isGraphic_of_range {c : Char} (h : 0x20 ≤ c.toNat ∧ c.toNat < 0x7f) : IsGraphic c := by
  refine ⟨by simp [isControl]; omega, fun hc => ?_⟩
  have outside : (lineBreaks.all fun d => !(0x20 ≤ d.toNat && d.toNat < 0x7f)) = true := by decide
  have own := List.all_eq_true.mp outside c hc
  simp only [Bool.not_eq_true', Bool.and_eq_false_iff, decide_eq_false_iff_not] at own
  omega

theorem isGraphic_of_escaped {letter c : Char} (h : escaped? letter = some c) : IsGraphic letter := by
  have known : letter ∈ ['\\', '"', 'n', 'r', 't', '0'] := by
    unfold escaped? at h
    split at h <;> simp_all
  have graphic : (['\\', '"', 'n', 'r', 't', '0'].all fun d =>
      0x20 ≤ d.toNat && d.toNat < 0x7f) = true := by decide
  exact isGraphic_of_range (by simpa using List.all_eq_true.mp graphic letter known)

theorem isGraphic_of_hexDigit {c : Char} {n : Nat} (h : hexDigit? c = some n) : IsGraphic c := by
  have between {low high : Char} (inside : 0x20 ≤ low.toNat ∧ high.toNat < 0x7f)
      (hc : low ≤ c ∧ c ≤ high) : IsGraphic c := by
    have least : low.toNat ≤ c.toNat := hc.1
    have most : c.toNat ≤ high.toNat := hc.2
    exact isGraphic_of_range ⟨by omega, by omega⟩
  unfold hexDigit? at h
  split at h
  next digit => exact between (by decide) digit
  next =>
  split at h
  next small => exact between (by decide) small
  next =>
  split at h
  next large => exact between (by decide) large
  next => cases h

/-- No spelling holds a control character or the end of a line. -/
theorem Spelling.isGraphic {cs : List Char} {c : Char} (h : Spelling cs c) :
    ∀ d ∈ cs, IsGraphic d := by
  have backslash : IsGraphic '\\' := isGraphic_of_range (by decide)
  cases h with
  | plain _ _ uncontrolled unbroken => exact List.forall_mem_singleton.mpr ⟨uncontrolled, unbroken⟩
  | escape he =>
    exact List.forall_mem_cons.mpr ⟨backslash, List.forall_mem_singleton.mpr (isGraphic_of_escaped he)⟩
  | number hn =>
    obtain ⟨w, x, y, z, rfl⟩ := numbered?_eq_some hn
    obtain ⟨_, hw, hn⟩ := Option.bind_eq_some_iff.mp hn
    obtain ⟨_, hx, hn⟩ := Option.bind_eq_some_iff.mp hn
    obtain ⟨_, hy, hn⟩ := Option.bind_eq_some_iff.mp hn
    obtain ⟨_, hz, -⟩ := Option.bind_eq_some_iff.mp hn
    simp only [List.forall_mem_cons, List.not_mem_nil, false_implies, implies_true, and_true]
    exact ⟨backslash, isGraphic_of_range (by decide), isGraphic_of_hexDigit hw, isGraphic_of_hexDigit hx,
      isGraphic_of_hexDigit hy, isGraphic_of_hexDigit hz⟩

theorem quote_injective : Function.Injective quote := by
  intro text other same
  have first := readLiteral?_quote text []
  rw [same, readLiteral?_quote] at first
  cases first
  rfl

/-- A literal gives its text back. It is read to its end and no further; inside it each character is
spelled on its own, without quotes, backslashes, control characters and line ends that stand for
themselves; and different texts have different literals. -/
theorem quote_gives_back :
    (∀ text rest, readLiteral? ((quote text).toList ++ rest) = some (text, rest)) ∧
    (∀ text, ∃ spellings, (quote text).toList = '"' :: (spellings.flatten ++ ['"']) ∧
      List.Forall₂ Spelling spellings text.toList ∧
      ∀ c ∈ spellings.flatten, isControl c = false ∧ c ∉ lineBreaks) ∧
    Function.Injective quote := by
  refine ⟨readLiteral?_quote, fun text => ?_, quote_injective⟩
  have each (cs : List Char) : List.Forall₂ Spelling (cs.map fun c => (quotedChar c).toList) cs := by
    induction cs with
    | nil => exact .nil
    | cons c cs ih => exact .cons (spelling_quotedChar c) ih
  refine ⟨text.toList.map fun c => (quotedChar c).toList, ?_, each _, fun d hd => ?_⟩
  · rw [quote_toList, inside, List.flatMap_def]
  · obtain ⟨spelling, hs, hd⟩ := List.mem_flatten.mp hd
    obtain ⟨c, -, rfl⟩ := List.mem_map.mp hs
    exact (spelling_quotedChar c).isGraphic d hd

end GraphScript.CSharp
