import GraphScript.Proofs.Build

namespace GraphScript

namespace CSharp

/-- What can be noticed in code without knowing its types: the call of a method, an assignment, and
the end of a statement. -/
inductive Sign where
  | call (name : List Char)
  | assign
  | stop
deriving DecidableEq, Repr

/-- Where a reader of code is. -/
inductive Region where
  | code
  /-- Behind a slash, with which a comment may begin. -/
  | slash
  /-- Behind a sign that assigns, unless it is doubled. -/
  | equals
  /-- Behind a sign that compares, alone or together with the next one. -/
  | compares
  /-- In a comment that ends with the line. -/
  | remark
  /-- In a comment that ends with a star and a slash. -/
  | comment
  | star
  /-- In a literal, up to the character that began it. -/
  | literal (quote : Char)
  | escape (quote : Char)
deriving DecidableEq, Repr

def Region.isCode : Region → Bool
  | code => true
  | _ => false

/-- The signs that end a name. -/
def separators : List Char :=
  ['"', '\'', '(', ')', '[', ']', '\x7b', '\x7d', '<', '>', '=', '!', '/', '*', '+', '-', '%', '&',
   '|', '^', '~', '?', ':', ';', ',', '\\', '#', '$']

def endsName (c : Char) : Bool :=
  !c.isAlphanum && (separators.contains c || lineBreaks.contains c)

/-- The characters that are not kept in a name. -/
def unkept : List Char :=
  ' ' :: '\t' :: (separators ++ lineBreaks)

structure Reader where
  region : Region
  /-- The name that was read last, from its end and without blanks. -/
  name : List Char
deriving DecidableEq, Repr

namespace Reader

def fresh : Reader :=
  ⟨.code, []⟩

def isFresh (r : Reader) : Bool :=
  r.region.isCode && r.name.isEmpty

/-- Goes on behind a character of code. -/
def step (r : Reader) (c : Char) : Reader :=
  if !endsName c then
    if c = ' ' ∨ c = '\t' then ⟨.code, r.name⟩ else ⟨.code, c :: r.name⟩
  else if c = '"' ∨ c = '\'' then ⟨.literal c, []⟩
  else if c = '/' then ⟨.slash, []⟩
  else if c = '=' then ⟨.equals, []⟩
  else if c = '!' ∨ c = '<' ∨ c = '>' then ⟨.compares, []⟩
  else fresh

def next (r : Reader) (c : Char) : Reader :=
  match r.region with
  | .code => r.step c
  | .slash =>
    if c = '/' then ⟨.remark, []⟩ else if c = '*' then ⟨.comment, []⟩ else r.step c
  | .equals => if c = '=' then fresh else r.step c
  | .compares => if c = '=' then fresh else r.step c
  | .remark => if lineBreaks.contains c then fresh else r
  | .comment => if c = '*' then ⟨.star, []⟩ else r
  | .star => if c = '/' then fresh else if c = '*' then r else ⟨.comment, []⟩
  | .literal quote =>
    if c = quote then fresh
    else if lineBreaks.contains c then fresh
    else if c = '\\' then ⟨.escape quote, []⟩
    else r
  | .escape quote => ⟨.literal quote, []⟩

/-- What is noticed at a character of code. -/
def seen (r : Reader) (c : Char) : List Sign :=
  if c = '(' then
    if r.name.isEmpty then [] else [.call r.name.reverse]
  else if c = ';' then [.stop]
  else []

def noticed (r : Reader) (c : Char) : List Sign :=
  match r.region with
  | .code => r.seen c
  | .slash => r.seen c
  | .compares => r.seen c
  | .equals => if c = '=' then [] else .assign :: r.seen c
  | _ => []

def signs : Reader → List Char → List Sign
  | _, [] => []
  | r, c :: cs => r.noticed c ++ (r.next c).signs cs

def after (r : Reader) (cs : List Char) : Reader :=
  cs.foldl next r

end Reader

/-- All that is noticed in the code of a text. -/
def signs (text : String) : List Sign :=
  Reader.fresh.signs text.toList

def Sign.isCallOf (method : List Char) : Sign → Bool
  | call name => method.isSuffixOf name
  | _ => false

/-- Whether a method is called anywhere in the code of a text, by itself or as a member. -/
def calls (method text : String) : Bool :=
  (signs text).any (Sign.isCallOf method.toList)

namespace Reader

variable {r : Reader} {cs : List Char}

theorem signs_append (r : Reader) (cs more : List Char) :
    r.signs (cs ++ more) = r.signs cs ++ (r.after cs).signs more := by
  induction cs generalizing r with
  | nil => rfl
  | cons c cs ih => rw [List.cons_append, signs, ih, signs, List.append_assoc]; rfl

theorem after_append (r : Reader) (cs more : List Char) :
    r.after (cs ++ more) = (r.after cs).after more :=
  List.foldl_append

end Reader

/-- The characters that lead a reader out of code, or at which something is noticed. -/
def active : List Char :=
  lineBreaks ++ ['"', '\'', '/', '=', '!', '<', '>', '(', ';']

/-- A text at which a reader of code notices nothing, wherever it stands. -/
abbrev Inert (text : String) : Prop :=
  (text.toList.all fun c => !active.contains c) = true

theorem inert_iff {text : String} : Inert text ↔ ∀ c ∈ text.toList, c ∉ active := by
  simp [Inert]

theorem inert_of_class {p : Char → Bool} (apart : active.all (fun c => !p c) = true) {text : String}
    (h : ∀ c ∈ text.toList, p c = true) : Inert text := by
  refine inert_iff.mpr fun c hc ha => ?_
  have outside := List.all_eq_true.mp apart c ha
  rw [h c hc] at outside
  cases outside

theorem IsName.inert {text : String} (h : IsName text) : Inert text := by
  have known : (active.all fun c => marks.contains c || punctuation.contains c) = true := by decide
  refine inert_iff.mpr fun c hc ha => ?_
  rcases Bool.or_eq_true_iff.mp (List.all_eq_true.mp known c ha) with mark | sign
  · exact unmarked_iff.mp h.unmarked c hc (List.contains_iff_mem.mp mark)
  · exact h.plain c (List.contains_iff_mem.mp sign) hc

theorem Numeric.inert {text : String} (h : Numeric text) : Inert text :=
  inert_of_class (by decide) (List.all_eq_true.mp h)

/-- Word characters and points, as in the name of a member. -/
abbrev Qualified (text : String) : Prop :=
  (text.toList.all fun c => Text.isWord c || c == '.') = true

set_option maxRecDepth 4000 in
theorem Qualified.inert {text : String} (h : Qualified text) : Inert text :=
  inert_of_class (by decide) (List.all_eq_true.mp h)

namespace Reader

variable {r : Reader}

theorem step_of_inert (r : Reader) {c : Char} (h : c ∉ active) :
    (r.step c).region = .code ∧ r.seen c = [] := by
  simp only [active, List.mem_append, List.mem_cons, List.not_mem_nil, or_false, not_or] at h
  obtain ⟨-, quote, single, slash, equals, not, less, more, opened, stop⟩ := h
  unfold step seen
  simp only [quote, single, slash, equals, not, less, more, opened, stop, if_false, or_self, and_true]
  split
  next =>
    split
    next => rfl
    next => rfl
  next => rfl

theorem next_of_code (h : r.region = .code) (c : Char) : r.next c = r.step c ∧ r.noticed c = r.seen c := by
  unfold next noticed
  rw [h]
  exact ⟨rfl, rfl⟩

theorem signs_of_inert {cs : List Char} (h : ∀ c ∈ cs, c ∉ active) (code : r.region = .code) :
    r.signs cs = [] ∧ (r.after cs).region = .code := by
  induction cs generalizing r with
  | nil => exact ⟨rfl, code⟩
  | cons c cs ih =>
    obtain ⟨own, others⟩ := List.forall_mem_cons.mp h
    obtain ⟨going, noticing⟩ := next_of_code code c
    obtain ⟨stays, still⟩ := r.step_of_inert own
    rw [signs, noticing, still, List.nil_append]
    exact ih others (by rw [going, stays])

/-- A name is kept as it is read. -/
theorem after_name {cs : List Char} (h : ∀ c ∈ cs, c ∉ unkept)
    (name : List Char) : (⟨.code, name⟩ : Reader).after cs = ⟨.code, cs.reverse ++ name⟩ := by
  induction cs generalizing name with
  | nil => rfl
  | cons c cs ih =>
    obtain ⟨own, others⟩ := List.forall_mem_cons.mp h
    simp only [unkept, List.mem_cons, List.mem_append, not_or] at own
    have kept : (⟨.code, name⟩ : Reader).next c = ⟨.code, c :: name⟩ := by
      simp [next, step, endsName, own]
    rw [after, List.foldl_cons, kept]
    exact (ih others (c :: name)).trans (by simp)

/-- Where a name ends it no longer matters. -/
theorem step_of_endsName (r : Reader) {c : Char} (h : endsName c = true) (closed : c ≠ '(') :
    r.step c = fresh.step c ∧ r.seen c = fresh.seen c := by
  unfold step seen
  simp only [h, closed, Bool.not_true, Bool.false_eq_true, if_false, and_self]

end Reader

/-- A part of code that begins behind no name: only what is allowed is noticed in it, and it leaves
the reader in code. -/
structure Sound (p : Sign → Bool) (text : String) : Prop where
  signs : (Reader.fresh.signs text.toList).all p = true
  code : (Reader.fresh.after text.toList).region = .code

variable {p : Sign → Bool}

theorem Inert.sound {text : String} (h : Inert text) : Sound p text := by
  obtain ⟨none, code⟩ := Reader.signs_of_inert (inert_iff.mp h) (r := .fresh) rfl
  exact ⟨by rw [none]; rfl, code⟩

theorem Sound.mono {q : Sign → Bool} (h : ∀ sign, p sign = true → q sign = true) {text : String}
    (own : Sound p text) : Sound q text :=
  ⟨List.all_eq_true.mpr fun sign hs => h sign (List.all_eq_true.mp own.signs sign hs), own.code⟩

/-- A piece of a line: code that is given, a part, or a word. -/
inductive Bit (p : Sign → Bool) where
  | given (chars : List Char)
  | part (text : String) (sound : Sound p text)
  | word (text : String) (inert : Inert text)

namespace Bit

def text : Bit p → String
  | given chars => String.ofList chars
  | part text _ => text
  | word text _ => text

/-- Reads given code from a known reader, if all that is noticed is allowed. -/
def follow (p : Sign → Bool) (r : Reader) (chars : List Char) : Option (Option Reader) :=
  if (r.signs chars).all p then some (some (r.after chars)) else none

/-- Reads given code behind some name, which may be called where it ends. -/
def resume (p : Sign → Bool) (chars : List Char) : Option (Option Reader) :=
  match chars.dropWhile fun c => !endsName c with
  | [] => some none
  | c :: rest => if c = '(' then none else follow p .fresh (c :: rest)

/-- Reads a piece. The reader is known, or it is in code behind some name. -/
def read : Option Reader → Bit p → Option (Option Reader)
  | some r, given chars => follow p r chars
  | none, given chars => resume p chars
  | some r, part _ _ => if r.isFresh then some none else none
  | none, part _ _ => none
  | some r, word _ _ => if r.region.isCode then some none else none
  | none, word _ _ => some none

def readAll : Option Reader → List (Bit p) → Option (Option Reader)
  | state, [] => some state
  | state, bit :: bits =>
    match bit.read state with
    | some further => readAll further bits
    | none => none

/-- Whether all that is noticed is allowed. -/
def fits (bits : List (Bit p)) : Bool :=
  (readAll (some .fresh) bits).isSome

/-- Whether the reader is in code at the end, too. -/
def settles (bits : List (Bit p)) : Bool :=
  match readAll (some .fresh) bits with
  | some none => true
  | some (some r) => r.region.isCode
  | none => false

end Bit

theorem Region.isCode_iff {region : Region} : region.isCode = true ↔ region = .code := by
  cases region <;> simp [isCode]

namespace Reader

theorem isFresh_iff {r : Reader} : r.isFresh = true ↔ r = fresh := by
  obtain ⟨region, name⟩ := r
  simp [isFresh, fresh, Region.isCode_iff]

/-- What is known of a reader. -/
def Is (r : Reader) : Option Reader → Prop
  | some known => r = known
  | none => r.region = .code

end Reader

namespace Bit

theorem follow_sound {r : Reader} {chars : List Char} {state : Option Reader}
    (h : follow p r chars = some state) :
    (r.signs chars).all p = true ∧ (r.after chars).Is state := by
  unfold follow at h
  split at h
  next allowed =>
    cases h
    exact ⟨allowed, rfl⟩
  next => cases h

theorem resume_sound {r : Reader} (code : r.region = .code) {chars : List Char}
    {state : Option Reader} (h : resume p chars = some state) :
    (r.signs chars).all p = true ∧ (r.after chars).Is state := by
  -- up to the end of the name nothing is noticed, and from there on the name does not matter
  have inner : ∀ c ∈ chars.takeWhile fun c => !endsName c, c ∉ active := by
    have outside : active.all endsName = true := by decide
    intro c hc ha
    have own := List.all_eq_true.mp List.all_takeWhile c hc
    rw [List.all_eq_true.mp outside c ha] at own
    cases own
  obtain ⟨none, code⟩ := Reader.signs_of_inert inner code
  rw [← List.takeWhile_append_dropWhile (p := fun c => !endsName c) (l := chars),
    Reader.signs_append, Reader.after_append, none, List.nil_append]
  generalize r.after (chars.takeWhile fun c => !endsName c) = r at code
  unfold resume at h
  have head := List.head?_dropWhile_not (fun c => !endsName c) chars
  split at h
  next ended =>
    cases h
    rw [ended]
    exact ⟨rfl, code⟩
  next c rest ended =>
    split at h
    next => cases h
    next closed =>
      have ends : endsName c = true := by simpa [ended] using head
      obtain ⟨going, noticing⟩ := Reader.next_of_code code c
      obtain ⟨stepped, seen⟩ := r.step_of_endsName ends closed
      obtain ⟨allowed, there⟩ := follow_sound h
      have same : r.next c = Reader.fresh.next c := going.trans stepped
      rw [ended, Reader.signs, noticing, seen, same]
      refine ⟨allowed, ?_⟩
      rw [Reader.after, List.foldl_cons, same]
      exact there

theorem read_sound {bit : Bit p} {state further : Option Reader} {r : Reader} (known : r.Is state)
    (h : bit.read state = some further) :
    (r.signs bit.text.toList).all p = true ∧ (r.after bit.text.toList).Is further := by
  cases bit with
  | given chars =>
    rw [text, String.toList_ofList]
    cases state with
    | some own =>
      cases known
      exact follow_sound h
    | none => exact resume_sound known h
  | part own sound =>
    cases state with
    | none => cases h
    | some start =>
      cases known
      rw [read] at h
      split at h
      next begun =>
        cases h
        rw [Reader.isFresh_iff.mp begun]
        exact ⟨sound.signs, sound.code⟩
      next => cases h
  | word own inert =>
    have code (code : r.region = .code) : (r.signs own.toList).all p = true ∧
        (r.after own.toList).region = .code := by
      obtain ⟨none, stays⟩ := Reader.signs_of_inert (inert_iff.mp inert) code
      exact ⟨by rw [none]; rfl, stays⟩
    cases state with
    | none =>
      cases h
      exact code known
    | some start =>
      cases known
      rw [read] at h
      split at h
      next inside =>
        cases h
        exact code (Region.isCode_iff.mp inside)
      next => cases h

theorem readAll_sound_from {bits : List (Bit p)} {state further : Option Reader} {r : Reader}
    (known : r.Is state) (h : readAll state bits = some further) :
    (r.signs (bits.flatMap fun bit => bit.text.toList)).all p = true ∧
      (r.after (bits.flatMap fun bit => bit.text.toList)).Is further := by
  induction bits generalizing r state with
  | nil =>
    cases h
    exact ⟨rfl, known⟩
  | cons bit bits ih =>
    rw [readAll] at h
    split at h
    next middle first =>
      obtain ⟨allowed, there⟩ := read_sound known first
      obtain ⟨more, last⟩ := ih there h
      rw [List.flatMap_cons, Reader.signs_append, Reader.after_append, List.all_append, allowed, more]
      exact ⟨rfl, last⟩
    next => cases h

theorem readAll_sound {bits : List (Bit p)} {state : Option Reader}
    (h : readAll (some .fresh) bits = some state) :
    (Reader.fresh.signs (bits.flatMap fun bit => bit.text.toList)).all p = true ∧
      (Reader.fresh.after (bits.flatMap fun bit => bit.text.toList)).Is state := by
  have start : Reader.fresh.Is (some .fresh) := rfl
  exact readAll_sound_from start h

theorem toList_join (first : Bit p) (rest : List (Bit p)) :
    ((rest.map Bit.text).foldl (· ++ ·) first.text).toList =
      (first :: rest).flatMap fun bit => bit.text.toList := by
  have joined (texts : List String) (start : String) : (texts.foldl (· ++ ·) start).toList =
      start.toList ++ texts.flatMap String.toList := by
    induction texts generalizing start with
    | nil => simp
    | cons text texts ih => simp [ih]
  rw [joined, List.flatMap_map, List.flatMap_cons]

end Bit

/-- All that is noticed in the code of a text is allowed. -/
def Shows (p : Sign → Bool) (text : String) : Prop :=
  (signs text).all p = true

theorem Shows.mono {q : Sign → Bool} (h : ∀ sign, p sign = true → q sign = true) {text : String}
    (own : Shows p text) : Shows q text :=
  List.all_eq_true.mpr fun sign hs => h sign (List.all_eq_true.mp own sign hs)

/-- A line from a template. -/
theorem shows_join (first : Bit p) (rest : List (Bit p)) (h : Bit.fits (first :: rest) = true) :
    Shows p ((rest.map Bit.text).foldl (· ++ ·) first.text) := by
  obtain ⟨state, read⟩ := Option.isSome_iff_exists.mp h
  rw [Shows, signs, Bit.toList_join]
  exact (Bit.readAll_sound read).1

/-- A part from a template. -/
theorem sound_join (first : Bit p) (rest : List (Bit p)) (h : Bit.settles (first :: rest) = true) :
    Sound p ((rest.map Bit.text).foldl (· ++ ·) first.text) := by
  unfold Bit.settles at h
  split at h
  next read =>
    obtain ⟨allowed, code⟩ := Bit.readAll_sound read
    rw [← Bit.toList_join] at allowed code
    exact ⟨allowed, code⟩
  next r read =>
    obtain ⟨allowed, known⟩ := Bit.readAll_sound read
    rw [← Bit.toList_join] at allowed known
    exact ⟨allowed, by rw [known, Region.isCode_iff.mp h]⟩
  next => cases h

theorem sound_given {text : String} (h : ((Reader.fresh.signs text.toList).all p &&
    (Reader.fresh.after text.toList).region.isCode) = true) : Sound p text := by
  obtain ⟨allowed, code⟩ := Bool.and_eq_true_iff.mp h
  exact ⟨allowed, Region.isCode_iff.mp code⟩

theorem sound_floatLiteral (x : Binary64) : Sound p (floatLiteral x) :=
  (numeric_floatLiteral x).inert.sound

/-- A reader in a string literal. -/
def Reader.quoting : Reader :=
  ⟨.literal '"', []⟩

/-- What stands for a character in a literal leaves the reader there, and nothing is noticed. -/
theorem Reader.quoting_quotedChar (c : Char) : quoting.signs (quotedChar c).toList = [] ∧
    quoting.after (quotedChar c).toList = quoting := by
  have stays {d : Char} (h : isHexDigit d = true) : quoting.next d = quoting := by
    have outside : (('"' :: '\\' :: lineBreaks).all fun c => !isHexDigit c) = true := by decide
    have other : d ∉ '"' :: '\\' :: lineBreaks := fun hd => by
      simpa [h] using List.all_eq_true.mp outside d hd
    simp only [List.mem_cons, not_or] at other
    simp [quoting, next, other]
  have silent (d : Char) : quoting.noticed d = [] := rfl
  refine quotedChar_cases (p := fun cs _ => quoting.signs cs = [] ∧ quoting.after cs = quoting)
    ?_ ?_ ?_ c
  · intro c quote backslash _ whole
    simp [signs, noticed, after, quoting, next, quote, backslash, whole]
  · intro c letter _ _
    exact ⟨rfl, rfl⟩
  · intro c w x y z lower _
    simp only [List.all_cons, Bool.and_eq_true] at lower
    change quoting.signs [w, x, y, z] = [] ∧ quoting.after [w, x, y, z] = quoting
    simp [signs, silent, after, stays, lower]

theorem sound_quote (text : String) : Sound p (quote text) := by
  have inner (cs : List Char) :
      Reader.quoting.signs (String.join (cs.map quotedChar)).toList = [] ∧
        Reader.quoting.after (String.join (cs.map quotedChar)).toList = .quoting := by
    induction cs with
    | nil => exact ⟨rfl, rfl⟩
    | cons c cs ih =>
      obtain ⟨silent, stays⟩ := Reader.quoting_quotedChar c
      rw [List.map_cons, String.join_cons, String.toList_append, Reader.signs_append,
        Reader.after_append, silent, stays, List.nil_append]
      exact ih
  obtain ⟨silent, stays⟩ := inner text.toList
  have chars : (quote text).toList =
      ['"'] ++ ((String.join (text.toList.map quotedChar)).toList ++ ['"']) := by
    simp [quote]
  have opened : Reader.fresh.after ['"'] = .quoting := rfl
  refine ⟨?_, ?_⟩
  · rw [chars, Reader.signs_append, opened, Reader.signs_append, silent, stays]
    rfl
  · rw [chars, Reader.after_append, opened, Reader.after_append, stays]
    rfl

theorem sound_numberLiteral (type : Option FieldType) (x : Binary64) :
    Sound p (numberLiteral type x) := by
  unfold numberLiteral
  split
  next =>
    split
    next => exact (numeric_int _).inert.sound
    next => exact sound_join (.given _) [.word _ (numeric_floatLiteral x).inert] rfl
  next => exact sound_floatLiteral x
  next =>
    split
    next => exact (numeric_int _).inert.sound
    next => exact sound_floatLiteral x

theorem Literal.sound {text : String} (h : Literal text) : Sound p text := by
  cases h with
  | quote text => exact sound_quote text
  | bool b => cases b <;> exact sound_given rfl
  | number type x => exact sound_numberLiteral type x
  | zero type =>
    unfold FieldType.zero
    split <;> exact sound_given rfl

/-- Code that only separates, whatever stands before it. -/
def Parts (text : String) : Prop :=
  ∀ name, (⟨.code, name⟩ : Reader).signs text.toList = [] ∧
    (⟨.code, name⟩ : Reader).after text.toList = .fresh

/-- Code behind which a part may stand. -/
structure Opens (p : Sign → Bool) (text : String) : Prop where
  signs : (Reader.fresh.signs text.toList).all p = true
  fresh : Reader.fresh.after text.toList = .fresh

theorem Opens.append {start part : String} (h : Opens p start) (h' : Sound p part) :
    Sound p (start ++ part) := by
  refine ⟨?_, ?_⟩
  · rw [String.toList_append, Reader.signs_append, h.fresh, List.all_append, h.signs, h'.signs]
    rfl
  · rw [String.toList_append, Reader.after_append, h.fresh]
    exact h'.code

theorem Sound.opens {text separator : String} (h : Sound p text) (hs : Parts separator) :
    Opens p (text ++ separator) := by
  obtain ⟨silent, parted⟩ := hs (Reader.fresh.after text.toList).name
  have middle : Reader.fresh.after text.toList =
      ⟨.code, (Reader.fresh.after text.toList).name⟩ := by rw [← h.code]
  rw [← middle] at silent parted
  refine ⟨?_, ?_⟩
  · rw [String.toList_append, Reader.signs_append, silent, List.append_nil]
    exact h.signs
  · rw [String.toList_append, Reader.after_append, parted]

theorem Sound.intercalate {separator : String} (hs : Parts separator) {parts : List String}
    (h : ∀ part ∈ parts, Sound p part) : Sound p (separator.intercalate parts) := by
  induction parts with
  | nil =>
    rw [String.intercalate_nil]
    exact sound_given rfl
  | cons part rest ih =>
    obtain ⟨first, others⟩ := List.forall_mem_cons.mp h
    cases rest with
    | nil => rwa [String.intercalate_singleton]
    | cons second rest =>
      rw [String.intercalate_cons_cons]
      exact (first.opens hs).append (ih others)

theorem opens_given {text : String} (h : ((Reader.fresh.signs text.toList).all p &&
    (Reader.fresh.after text.toList).isFresh) = true) : Opens p text := by
  obtain ⟨allowed, fresh⟩ := Bool.and_eq_true_iff.mp h
  exact ⟨allowed, Reader.isFresh_iff.mp fresh⟩

theorem opens_join (first : Bit p) (rest : List (Bit p))
    (h : Bit.readAll (some .fresh) (first :: rest) = some (some .fresh)) :
    Opens p ((rest.map Bit.text).foldl (· ++ ·) first.text) := by
  obtain ⟨allowed, known⟩ := Bit.readAll_sound h
  rw [← Bit.toList_join] at allowed known
  exact ⟨allowed, known⟩

/-- The texts of a call: how it begins, and its arguments, each with what follows it. -/
theorem sound_call {start : String} (arguments : List String) (hs : Opens p start)
    (ha : ∀ argument ∈ arguments, Sound p argument) :
    Sound p ((arguments.dropLast.flatMap fun argument => [argument, ", "]).foldl (· ++ ·) start ++
      arguments.getLast?.getD "" ++ ")") := by
  have stop : Parts ")" := fun _ => ⟨rfl, rfl⟩
  have comma : Parts ", " := fun _ => ⟨rfl, rfl⟩
  have closed {text : String} (h : Sound p text) : Sound p (text ++ ")") := by
    have opens := h.opens stop
    exact ⟨opens.signs, by rw [opens.fresh]; rfl⟩
  induction arguments generalizing start with
  | nil =>
    have empty : Sound p "" := sound_given rfl
    exact closed (hs.append empty)
  | cons argument arguments ih =>
    obtain ⟨first, others⟩ := List.forall_mem_cons.mp ha
    cases arguments with
    | nil => exact closed (hs.append first)
    | cons second arguments => exact ih ((hs.append first).opens comma) others

end CSharp

open CSharp

/-- The static method that a service is called by. -/
def Service.method (service : Service) : List Char :=
  (service.opening .static).toList.dropLast

namespace CSharp.Sign

/-- Neither the call of a service nor of the animator. -/
def isPlain (sign : Sign) : Bool :=
  !("_animator.Play".toList :: Service.all.map Service.method).any fun method => sign.isCallOf method

theorem not_isCallOf_of_isPlain {sign : Sign} (h : sign.isPlain = true) {method : List Char}
    (hm : method ∈ "_animator.Play".toList :: Service.all.map Service.method) :
    sign.isCallOf method = false :=
  Bool.eq_false_iff.mpr (List.any_eq_false.mp (Bool.not_eq_true' _ |>.mp h) method hm)

/-- At most the call of one service, and none of the animator. -/
def isOf (service : Service) : Sign → Bool
  | call name => isPlain (.call name) || service.method == name
  | sign => sign.isPlain

theorem isOf_of_isPlain {service : Service} (sign : Sign) (h : sign.isPlain = true) :
    sign.isOf service = true := by
  cases sign with
  | call name => exact Bool.or_eq_true_iff.mpr (.inl h)
  | _ => exact h

/-- The methods that are called to test something. -/
def testMethods : List (List Char) :=
  ["if", "foreach", "Vector3.Distance", "Input.GetKey", "Input.GetKeyDown", "Input.GetKeyUp",
   "_context.Cooldowns.TryUse"].map String.toList

/-- The call of a method that tests something, and nothing else. -/
def isTest : Sign → Bool
  | call name => testMethods.contains name
  | _ => false

theorem isPlain_of_isTest (sign : Sign) (h : sign.isTest = true) : sign.isPlain = true := by
  have plain : (testMethods.all fun method => (call method).isPlain) = true := by decide
  cases sign with
  | call name => exact List.all_eq_true.mp plain name (List.contains_iff_mem.mp h)
  | _ => cases h

/-- The methods that tests call, and that of a gate as a static call. -/
def gateMethods : List (List Char) :=
  Service.cooldown.method :: testMethods

/-- A test, or the gate of an event. -/
def isGate : Sign → Bool
  | call name => gateMethods.contains name
  | _ => false

theorem isGate_of_isTest (sign : Sign) (h : sign.isTest = true) : sign.isGate = true := by
  cases sign with
  | call name =>
    exact List.contains_iff_mem.mpr (List.mem_cons_of_mem _ (List.contains_iff_mem.mp h))
  | _ => exact h

end CSharp.Sign

namespace ServiceCall

variable {c : ServiceCall} (h : ∀ argument ∈ c.arguments, Sound Sign.isPlain argument)
include h

theorem sound_renderContext : Sound Sign.isPlain c.renderContext := by
  cases c with
  | spawn => exact sound_call [_, _] (opens_given rfl) h
  | spawnSelf => exact sound_call [_] (opens_given rfl) h
  | playParticle => exact sound_call [_, _, _] (opens_given rfl) h
  | playSound => exact sound_call [_] (opens_given rfl) h
  | fireProjectile => exact sound_call [_, _, _, _] (opens_given rfl) h
  | emitSignal => exact sound_call [_] (opens_given rfl) h
  | clearSignal => exact sound_call [_] (opens_given rfl) h
  | showDialogue => exact sound_call [_] (opens_given rfl) h
  | changeScene => exact sound_call [_] (opens_given rfl) h
  | cooldown => exact sound_call [_, _] (opens_given rfl) h

theorem sound_renderStatic : Sound (Sign.isOf c.service) c.renderStatic := by
  have own {service : Service} : ∀ argument ∈ c.arguments, Sound (Sign.isOf service) argument :=
    fun argument ha => (h argument ha).mono Sign.isOf_of_isPlain
  cases c with
  | spawn => exact sound_call (p := Sign.isOf .spawn) [_, _] (opens_given rfl) own
  | spawnSelf => exact sound_call (p := Sign.isOf .spawnSelf) [_] (opens_given rfl) own
  | playParticle => exact sound_call (p := Sign.isOf .playParticle) [_, _, _] (opens_given rfl) own
  | playSound => exact sound_call (p := Sign.isOf .playSound) [_] (opens_given rfl) own
  | fireProjectile => exact sound_call (p := Sign.isOf .fireProjectile) [_, _, _, _] (opens_given rfl) own
  | emitSignal => exact sound_call (p := Sign.isOf .emitSignal) [_] (opens_given rfl) own
  | clearSignal => exact sound_call (p := Sign.isOf .clearSignal) [_] (opens_given rfl) own
  | showDialogue => exact sound_call (p := Sign.isOf .showDialogue) [_] (opens_given rfl) own
  | changeScene => exact sound_call (p := Sign.isOf .changeScene) [_] (opens_given rfl) own
  | cooldown => exact sound_call (p := Sign.isOf .cooldown) [_, _] (opens_given rfl) own

end ServiceCall

namespace Context

variable {ctx : Context} {p : Sign → Bool}

theorem IsOperand.sound (named : ctx.NamesSanitized) {text : String} (h : ctx.IsOperand text) :
    Sound p text := by
  cases h with
  | literal own => exact own.sound
  | reference name => exact (isName_identifier named name).inert.sound

/-- A condition only tests, if the keys that it asks for are names. -/
theorem TestForm.sound {keys : List String} (hk : ∀ key ∈ keys, Qualified (Key.member key))
    {text : String} (h : TestForm keys text) : Sound Sign.isTest text := by
  cases h with
  | compared c hn hl =>
    cases c <;>
      exact sound_join (.word _ hn.inert) [.given _, .given _, .given _, .part _ hl.sound] rfl
  | asked phase hc =>
    have key := (hk _ hc).inert
    cases phase <;> exact sound_join (.given _) [.given _, .given _, .word _ key, .given _] rfl
  | holds => exact sound_given rfl
  | untracked => exact sound_given rfl

theorem combine_sound (useOr : Bool) {parts : List String} (h : ∀ part ∈ parts, Sound p part) :
    Sound p (combine useOr parts) := by
  have separator : Parts (if useOr then " || " else " && ") := by
    cases useOr <;> exact fun _ => ⟨rfl, rfl⟩
  unfold combine
  split
  next => exact sound_given rfl
  next => exact Sound.intercalate separator h

end Context

end GraphScript
