import GraphScript.Fault
import GraphScript.Text.Blank

namespace GraphScript.Yaml

/-- Why a text is no document. -/
inductive Issue where
  | unprintable
  | noToken
  | lostKey
  | keyNotAllowed
  | entryNotAllowed
  | valueNotAllowed
  | directive
  | anchor
  | tag
  | blockHeader
  | unclosedQuote
  | separatorInQuote
  | escape
  | unexpectedEnd
  | content
  | collectionEnd
  | severalDocuments
  | duplicateAnchor
  | undefinedAlias
  | unknownTag
  | wrongKind
  | unhashableKey
  | badMerge
  /-- A number or a character that cannot be had. -/
  | fault (fault : Fault)
deriving DecidableEq, Repr

def Issue.message : Issue → String
  | unprintable => "special characters are not allowed"
  | noToken => "found a character that cannot start any token"
  | lostKey => "could not find expected ':'"
  | keyNotAllowed => "mapping keys are not allowed here"
  | entryNotAllowed => "sequence entries are not allowed here"
  | valueNotAllowed => "mapping values are not allowed here"
  | directive => "found a malformed directive"
  | anchor => "found a malformed anchor or alias"
  | tag => "found a malformed tag"
  | blockHeader => "found a malformed block scalar header"
  | unclosedQuote => "found unexpected end of stream in a quoted scalar"
  | separatorInQuote => "found unexpected document separator in a quoted scalar"
  | escape => "found unknown escape character"
  | unexpectedEnd => "found unexpected end of stream"
  | content => "expected the node content"
  | collectionEnd => "expected the end of a collection"
  | severalDocuments => "expected a single document in the stream"
  | duplicateAnchor => "found duplicate anchor"
  | undefinedAlias => "found undefined alias"
  | unknownTag => "could not determine a constructor for the tag"
  | wrongKind => "found a node of an unexpected kind"
  | unhashableKey => "found unhashable key"
  | badMerge => "expected a mapping or list of mappings for merging"
  | fault f => f.message

/-- What stands behind the last character. -/
def endMark : Char := Char.ofNat 0

def byteOrderMark : Char := Char.ofNat 0xfeff

def nextLine : Char := Char.ofNat 0x85

def lineSeparator : Char := Char.ofNat 0x2028

def paragraphSeparator : Char := Char.ofNat 0x2029

def isBreak (c : Char) : Bool :=
  c == '\n' || c == '\r' || c == nextLine || c == lineSeparator || c == paragraphSeparator

def isBreakOrEnd (c : Char) : Bool :=
  c == endMark || isBreak c

/-- A space, a tab, a break, or the end. -/
def isGap (c : Char) : Bool :=
  c == ' ' || c == '\t' || isBreakOrEnd c

def isIndent (c : Char) : Bool :=
  c == ' ' || c == '\t'

/-- The characters that a text may hold. -/
def printable : List (Nat × Nat) :=
  [(0x9, 0xa), (0xd, 0xd), (0x20, 0x7e), (0x85, 0x85), (0xa0, 0xd7ff), (0xe000, 0xfffd),
   (0x10000, 0x10ffff)]

def isPrintable (c : Char) : Bool :=
  Text.inRanges printable c.toNat

structure Cursor where
  rest : List Char
  /-- The length of the whole text. -/
  size : Nat
  index : Nat
  line : Nat
  column : Nat

namespace Cursor

def start (text : List Char) : Cursor :=
  ⟨text, text.length, 0, 0, 0⟩

/-- How many characters are left. -/
def left (c : Cursor) : Nat :=
  c.size - c.index

/-- The character some places ahead. -/
def peekAt (c : Cursor) (offset : Nat) : Char :=
  (c.rest.drop offset).headD endMark

def peek (c : Cursor) : Char :=
  c.rest.headD endMark

/-- One character further. A carriage return before a line feed does not end the line yet. -/
def advance (c : Cursor) : Cursor :=
  match c.rest with
  | [] => c
  | x :: rest =>
    if isBreak x && !(x == '\r' && rest.head? == some '\n') then
      { c with rest := rest, index := c.index + 1, line := c.line + 1, column := 0 }
    else if x == byteOrderMark then { c with rest := rest, index := c.index + 1 }
    else { c with rest := rest, index := c.index + 1, column := c.column + 1 }

/-- Several characters further. -/
def skip : Nat → Cursor → Cursor
  | 0, c => c
  | n + 1, c => skip n c.advance

/-- The longest run of characters of a class, and the place after it. -/
def spanList (p : Char → Bool) : List Char → Cursor → List Char × Cursor
  | [], c => ([], c)
  | x :: rest, c =>
    if p x then
      let (run, after) := spanList p rest c.advance
      (x :: run, after)
    else ([], c)

def span (p : Char → Bool) (c : Cursor) : List Char × Cursor :=
  spanList p c.rest c

def skipWhile (p : Char → Bool) (c : Cursor) : Cursor :=
  (c.span p).2

/-- A line break, as it counts in a scalar; nothing where there is none. -/
def lineBreak (c : Cursor) : List Char × Cursor :=
  let x := c.peek
  if x == '\r' && c.peekAt 1 == '\n' then (['\n'], c.skip 2)
  else if x == '\r' || x == '\n' || x == nextLine then (['\n'], c.advance)
  else if x == lineSeparator || x == paragraphSeparator then ([x], c.advance)
  else ([], c)

/-- Whether a mark between documents stands here. -/
def isSeparator (c : Cursor) : Bool :=
  (c.rest.take 3 == ['-', '-', '-'] || c.rest.take 3 == ['.', '.', '.']) && isGap (c.peekAt 3)

end Cursor

end GraphScript.Yaml
