import GraphScript.Json.Reader
import GraphScript.Yaml.Cursor

namespace GraphScript.Yaml

/-- What a line break and the further breaks after it become between two parts of a text: a single
break is a space. -/
def folded (first : List Char) (further : List Char) : List Char :=
  if first != ['\n'] then first ++ further
  else if further.isEmpty then [' ']
  else further

/-- A scalar's text and the place after it. -/
structure Scanned where
  text : List Char
  cursor : Cursor
  /-- Whether the scan ended behind a line break, where a key may start. -/
  newLine : Bool

/-- The breaks and spaces that follow a line break inside a plain scalar; none before a mark
between documents. -/
def plainBreaks : Nat → Cursor → Option (List Char) × Cursor
  | 0, c => (some [], c)
  | fuel + 1, c =>
    if c.peek == ' ' then plainBreaks fuel c.advance
    else if isBreak c.peek then
      let (b, c) := c.lineBreak
      if c.isSeparator then (none, c)
      else
        match plainBreaks fuel c with
        | (some more, c) => (some (b ++ more), c)
        | (none, c) => (none, c)
    else (some [], c)

/-- What separates two parts of a plain scalar, if it goes on. -/
def plainSpaces (c : Cursor) : Option (List Char) × Cursor × Bool :=
  let (spaces, c) := c.span (· == ' ')
  if isBreak c.peek then
    let (b, c) := c.lineBreak
    if c.isSeparator then (none, c, true)
    else
      match plainBreaks (c.left + 1) c with
      | (some more, c) => (some (folded b more), c, true)
      | (none, c) => (none, c, true)
  else (some spaces, c, false)

/-- Whether a plain scalar ends before the first of these characters. -/
def endsPlain (inFlow : Bool) (x next : Char) : Bool :=
  isGap x || (x == ':' && (isGap next || (inFlow && [',', '[', ']', '\x7b', '\x7d'].contains next))) ||
    (inFlow && [',', '?', '[', ']', '\x7b', '\x7d'].contains x)

/-- The characters of a plain scalar up to a gap or an indicator. -/
def plainRun (inFlow : Bool) : List Char → Cursor → List Char × Cursor
  | [], c => ([], c)
  | x :: rest, c =>
    if endsPlain inFlow x (rest.headD endMark) then ([], c)
    else
      let (run, after) := plainRun inFlow rest c.advance
      (x :: run, after)

/-- A plain scalar inside a parent that is indented by less than `indent`. -/
def plainFrom (inFlow : Bool) (indent : Int) : Nat → List Char → Bool → Cursor → Scanned
  | 0, _, newLine, c => ⟨[], c, newLine⟩
  | fuel + 1, spaces, newLine, c =>
    if c.peek == '#' then ⟨[], c, newLine⟩
    else
      match plainRun inFlow c.rest c with
      | ([], c) => ⟨[], c, newLine⟩
      | (run, c) =>
        match plainSpaces c with
        | (none, c, newLine) => ⟨spaces ++ run, c, newLine⟩
        | (some [], c, newLine) => ⟨spaces ++ run, c, newLine⟩
        | (some more, c, newLine) =>
          if c.peek == '#' || (!inFlow && (c.column : Int) < indent) then ⟨spaces ++ run, c, newLine⟩
          else
            let tail := plainFrom inFlow indent fuel more newLine c
            ⟨spaces ++ run ++ tail.text, tail.cursor, tail.newLine⟩

def plain (inFlow : Bool) (indent : Int) (c : Cursor) : Scanned :=
  plainFrom inFlow indent (c.left + 1) [] false c

/-- The breaks and indentation that follow a line break inside quotes. -/
def quotedBreaks : Nat → Cursor → Except Issue (List Char × Cursor)
  | 0, c => .ok ([], c)
  | fuel + 1, c =>
    if c.isSeparator then .error .separatorInQuote
    else
      let c := c.skipWhile isIndent
      if isBreak c.peek then do
        let (b, c) := c.lineBreak
        let (more, c) ← quotedBreaks fuel c
        return (b ++ more, c)
      else .ok ([], c)

/-- A line break inside quotes, folded with what follows it. -/
def quotedFold (c : Cursor) : Except Issue (List Char × Cursor) := do
  let (b, c) := c.lineBreak
  let (more, c) ← quotedBreaks (c.left + 1) c
  return (folded b more, c)

/-- What a character after a backslash stands for. -/
def escaped? (x : Char) : Option Char :=
  match x with
  | '0' => some (Char.ofNat 0)
  | 'a' => some (Char.ofNat 7)
  | 'b' => some (Char.ofNat 8)
  | 't' => some '\t'
  | '\t' => some '\t'
  | 'n' => some '\n'
  | 'v' => some (Char.ofNat 11)
  | 'f' => some (Char.ofNat 12)
  | 'r' => some '\r'
  | 'e' => some (Char.ofNat 27)
  | ' ' => some ' '
  | '"' => some '"'
  | '\\' => some '\\'
  | '/' => some '/'
  | 'N' => some nextLine
  | '_' => some (Char.ofNat 0xa0)
  | 'L' => some lineSeparator
  | 'P' => some paragraphSeparator
  | _ => none

/-- How many digits a numeric escape has. -/
def escapeLength? (x : Char) : Option Nat :=
  match x with
  | 'x' => some 2
  | 'u' => some 4
  | 'U' => some 8
  | _ => none

/-- The number that a list of digits writes in base sixteen. -/
def hexNumber? (digits : List Char) : Option Nat :=
  digits.foldl (fun n d => do return 16 * (← n) + (← Json.hexValue? d)) (some 0)

/-- The first code that is too large to be looked up. -/
def codeLimit : Nat := 0x80000000

/-- The character of a code. -/
def charOf (n : Nat) : Except Issue Char :=
  if codeLimit ≤ n then .error (.fault .codeTooLarge)
  else if 0x110000 ≤ n then .error (.fault .noCharacter)
  else .ok (Char.ofNat n)

/-- What an escape stands for; `c` is behind the backslash. -/
def escapeSequence (c : Cursor) : Except Issue (List Char × Cursor) :=
  let x := c.peek
  match escaped? x with
  | some e => .ok ([e], c.advance)
  | none =>
    match escapeLength? x with
    | some length =>
      let digits := c.advance.rest.take length
      match hexNumber? digits with
      | some n =>
        if digits.length ≠ length then .error .escape
        else do return ([← charOf n], c.skip (length + 1))
      | none => .error .escape
    | none =>
      if isBreak x then
        let c := c.lineBreak.2
        quotedBreaks (c.left + 1) c
      else .error .escape

/-- The text up to the closing quote. -/
def quotedFrom (double : Bool) : Nat → Cursor → Except Issue (List Char × Cursor)
  | 0, _ => .error .unclosedQuote
  | fuel + 1, c => do
    let x := c.peek
    if c.rest.isEmpty then .error .unclosedQuote
    else if double && x == '"' then return ([], c.advance)
    else if !double && x == '\'' && c.peekAt 1 != '\'' then return ([], c.advance)
    else
      let (part, c) ←
        if !double && x == '\'' then .ok (['\''], c.skip 2)
        else if double && x == '\\' then escapeSequence c.advance
        else if isIndent x then
          let (spaces, c) := c.span isIndent
          if isBreak c.peek then quotedFold c else .ok (spaces, c)
        else if isBreak x then quotedFold c
        else .ok ([x], c.advance)
      let (rest, c) ← quotedFrom double fuel c
      return (part ++ rest, c)

/-- A quoted scalar; `c` is at the opening quote. -/
def quoted (double : Bool) (c : Cursor) : Except Issue Scanned := do
  let (text, c) ← quotedFrom double (c.left + 1) c.advance
  return ⟨text, c, false⟩

/-- What happens to the breaks at the end of a block. -/
inductive Chomping where
  | clip
  | strip
  | keep
deriving DecidableEq, Repr

def chomping? (x : Char) : Option Chomping :=
  if x == '+' then some .keep else if x == '-' then some .strip else none

/-- The indentation that a digit gives to a block. -/
def increment (x : Char) : Except Issue (Option Nat) :=
  if '1' ≤ x ∧ x ≤ '9' then .ok (some (x.toNat - 48))
  else if x == '0' then .error .blockHeader
  else .ok none

/-- The two marks of a block's header, in either order. -/
def blockMarks (c : Cursor) : Except Issue (Chomping × Option Nat × Cursor) := do
  match chomping? c.peek with
  | some chomping =>
    let c := c.advance
    match ← increment c.peek with
    | some n => return (chomping, some n, c.advance)
    | none => return (chomping, none, c)
  | none =>
    match ← increment c.peek with
    | some n =>
      let c := c.advance
      match chomping? c.peek with
      | some chomping => return (chomping, some n, c.advance)
      | none => return (.clip, some n, c)
    | none => return (.clip, none, c)

/-- The rest of a line that may only hold a comment. -/
def restOfLine (issue : Issue) (c : Cursor) : Except Issue Cursor :=
  let c := c.skipWhile (· == ' ')
  let c := if c.peek == '#' then c.skipWhile (fun x => !isBreakOrEnd x) else c
  if isBreakOrEnd c.peek then .ok c.lineBreak.2 else .error issue

/-- The breaks before the first line of a block, and the largest indentation among them. -/
def blockLead : Nat → Cursor → List Char × Nat × Cursor
  | 0, c => ([], 0, c)
  | fuel + 1, c =>
    if c.peek == ' ' then
      let c := c.advance
      let (breaks, most, after) := blockLead fuel c
      (breaks, max c.column most, after)
    else if isBreak c.peek then
      let (b, c) := c.lineBreak
      let (breaks, most, c) := blockLead fuel c
      (b ++ breaks, most, c)
    else ([], 0, c)

/-- Skips spaces up to a column. -/
def skipIndent (indent : Nat) : Nat → Cursor → Cursor
  | 0, c => c
  | fuel + 1, c => if c.column < indent && c.peek == ' ' then skipIndent indent fuel c.advance else c

/-- The breaks before a line of a block. -/
def blockBreaks (indent : Nat) : Nat → Cursor → List Char × Cursor
  | 0, c => ([], c)
  | fuel + 1, c =>
    let c := skipIndent indent indent c
    if isBreak c.peek then
      let (b, c) := c.lineBreak
      let (more, c) := blockBreaks indent fuel c
      (b ++ more, c)
    else ([], c)

/-- The lines of a block: its text without the end, the last line break, and the breaks after it.
`lead` is what stands before the line. -/
def blockLines (fold : Bool) (indent : Nat) : Nat → List Char → Cursor →
    List Char × List Char × List Char × Cursor
  | 0, lead, c => ([], [], lead, c)
  | fuel + 1, lead, c =>
    if c.column = indent && !c.rest.isEmpty then
      let startsText := !isIndent c.peek
      let (line, c) := c.span fun x => !isBreakOrEnd x
      let (b, c) := c.lineBreak
      let (breaks, c) := blockBreaks indent (c.left + 1) c
      if c.column = indent && !c.rest.isEmpty then
        let glue :=
          if fold && b == ['\n'] && startsText && !isIndent c.peek then
            if breaks.isEmpty then [' '] else []
          else b
        let (text, last, trailing, c) := blockLines fold indent fuel (glue ++ breaks) c
        (lead ++ line ++ text, last, trailing, c)
      else (lead ++ line, b, breaks, c)
    else ([], [], lead, c)

/-- A block scalar; `c` is at its mark, and `parent` is the indentation around it. -/
def block (fold : Bool) (parent : Int) (c : Cursor) : Except Issue Scanned := do
  let (chomping, given, c) ← blockMarks c.advance
  if !(c.peek == ' ' || isBreakOrEnd c.peek) then .error .blockHeader
  else
    let c ← restOfLine .blockHeader c
    let least := (max (parent + 1) 1).toNat
    let (lead, indent, c) :=
      match given with
      | some n =>
        let indent := least + n - 1
        let (breaks, c) := blockBreaks indent (c.left + 1) c
        (breaks, indent, c)
      | none =>
        let (breaks, most, c) := blockLead (c.left + 1) c
        (breaks, max least most, c)
    let (text, last, trailing, c) := blockLines fold indent (c.left + 1) lead c
    let text := text ++ (if chomping = .strip then [] else last)
    let text := text ++ (if chomping = .keep then trailing else [])
    return ⟨text, c, true⟩

end GraphScript.Yaml
