import GraphScript.Yaml.Scalar

namespace GraphScript.Yaml

inductive Token where
  | directive
  | documentStart
  | documentEnd
  | streamEnd
  | blockSequenceStart
  | blockMappingStart
  | blockEnd
  | flowSequenceStart
  | flowSequenceEnd
  | flowMappingStart
  | flowMappingEnd
  | blockEntry
  | flowEntry
  | key
  | value
  | alias (name : String)
  | anchor (name : String)
  | tag (handle : Option String) (suffix : String)
  | scalar (text : String) (plain : Bool)
  /-- The text cannot be read further. -/
  | stop (fault : Fault)
deriving DecidableEq, Repr

/-- A place where a key may have started. -/
structure PendingKey where
  /-- How many tokens come before it. -/
  position : Nat
  required : Bool
  index : Nat
  line : Nat
  column : Nat

structure Lexer where
  cursor : Cursor
  /-- How many flow collections are open. -/
  flow : Nat
  indent : Int
  indents : List Int
  /-- Whether a key may start here. -/
  keysAllowed : Bool
  /-- The pending key of each flow level. -/
  pending : List (Nat × PendingKey)
  /-- The tokens so far, the last one first. -/
  tokens : List Token
  /-- How many tokens there are. -/
  count : Nat

namespace Lexer

def start (text : List Char) : Lexer :=
  ⟨.start text, 0, -1, [], true, [], [], 0⟩

def push (l : Lexer) (token : Token) : Lexer :=
  { l with tokens := token :: l.tokens, count := l.count + 1 }

/-- Puts a token in front of those from a position on. -/
def insert (l : Lexer) (position : Nat) (token : Token) : Lexer :=
  let later := l.count - position
  { l with tokens := l.tokens.take later ++ token :: l.tokens.drop later, count := l.count + 1 }

/-- How far a key may be from its colon. -/
def keyReach : Nat := 1024

/-- Whether a pending key can no longer be one. -/
def isStale (c : Cursor) (key : PendingKey) : Bool :=
  key.line != c.line || key.index + keyReach < c.index

/-- Forgets pending keys that are too far away. -/
def dropStale (l : Lexer) : Except Issue Lexer :=
  if l.pending.any fun p => isStale l.cursor p.2 && p.2.required then .error .lostKey
  else .ok { l with pending := l.pending.filter fun p => !isStale l.cursor p.2 }

/-- Forgets the pending key of the current level. -/
def dropPending (l : Lexer) : Except Issue Lexer :=
  match l.pending.lookup l.flow with
  | none => .ok l
  | some key =>
    if key.required then .error .lostKey
    else .ok { l with pending := l.pending.filter fun p => p.1 != l.flow }

/-- Notes that a key may start here. -/
def savePending (l : Lexer) : Except Issue Lexer := do
  if !l.keysAllowed then return l
  let c := l.cursor
  let required := l.flow == 0 && l.indent == c.column
  let l ← l.dropPending
  let key : PendingKey := ⟨l.count, required, c.index, c.line, c.column⟩
  return { l with pending := (l.flow, key) :: l.pending }

/-- Closes the block collections that are indented by more than a column. -/
def unwindTo (column : Int) : List Int → Lexer → Lexer
  | [], l => l
  | outer :: rest, l =>
    if column < l.indent then unwindTo column rest { l.push .blockEnd with indent := outer, indents := rest }
    else l

def unwind (l : Lexer) (column : Int) : Lexer :=
  if l.flow == 0 then unwindTo column l.indents l else l

/-- Whether a collection starts at a column. -/
def opensAt (l : Lexer) (column : Nat) : Bool :=
  l.indent < column

def enter (l : Lexer) (column : Nat) : Lexer :=
  { l with indent := column, indents := l.indent :: l.indents }

/-- Starts a block collection at the cursor, unless it has started. -/
def openBlock (l : Lexer) (token : Token) : Lexer :=
  if l.flow == 0 && l.opensAt l.cursor.column then (l.enter l.cursor.column).push token else l

/-- Takes some characters as a token. -/
def take (l : Lexer) (length : Nat) (token : Token) : Lexer :=
  { l.push token with cursor := l.cursor.skip length }

def allowKeys (l : Lexer) (allowed : Bool) : Lexer :=
  { l with keysAllowed := allowed }

/-- Skips spaces, comments and line breaks. -/
def skipGaps : Nat → Lexer → Lexer
  | 0, l => l
  | fuel + 1, l =>
    let c := l.cursor.skipWhile (· == ' ')
    let c := if c.peek == '#' then c.skipWhile (fun x => !isBreakOrEnd x) else c
    match c.lineBreak with
    | ([], c) => { l with cursor := c }
    | (_, c) => skipGaps fuel { l with cursor := c, keysAllowed := l.keysAllowed || l.flow == 0 }

def skipMark (l : Lexer) : Lexer :=
  if l.cursor.index == 0 && l.cursor.peek == byteOrderMark then { l with cursor := l.cursor.advance } else l

/-- Ends all block collections before something that is no part of a document. -/
def leaveDocument (l : Lexer) : Except Issue Lexer := do
  let l ← (l.unwind (-1)).dropPending
  return l.allowKeys false

def isNameChar (x : Char) : Bool :=
  ('0' ≤ x && x ≤ '9') || ('A' ≤ x && x ≤ 'Z') || ('a' ≤ x && x ≤ 'z') || x == '-' || x == '_'

/-- A directive; its text does not matter. -/
def directive (l : Lexer) : Except Issue Lexer := do
  let l ← l.leaveDocument
  let (name, c) := l.cursor.advance.span isNameChar
  if name.isEmpty || !(c.peek == ' ' || isBreakOrEnd c.peek) then .error .directive
  else
    let c ← restOfLine .directive (c.skipWhile fun x => !isBreakOrEnd x)
    return { l.push .directive with cursor := c }

def documentMark (l : Lexer) (token : Token) : Except Issue Lexer := do
  let l ← l.leaveDocument
  return l.take 3 token

def openFlow (l : Lexer) (token : Token) : Except Issue Lexer := do
  let l ← l.savePending
  return ({ l with flow := l.flow + 1 }.allowKeys true).take 1 token

def closeFlow (l : Lexer) (token : Token) : Except Issue Lexer := do
  let l ← l.dropPending
  if l.flow == 0 then .error .content
  else return ({ l with flow := l.flow - 1 }.allowKeys false).take 1 token

def flowEntry (l : Lexer) : Except Issue Lexer := do
  let l ← (l.allowKeys true).dropPending
  return l.take 1 .flowEntry

def blockEntry (l : Lexer) : Except Issue Lexer := do
  if l.flow == 0 && !l.keysAllowed then .error .entryNotAllowed
  else
    let l ← ((l.openBlock .blockSequenceStart).allowKeys true).dropPending
    return l.take 1 .blockEntry

def explicitKey (l : Lexer) : Except Issue Lexer := do
  if l.flow == 0 && !l.keysAllowed then .error .keyNotAllowed
  else
    let l ← ((l.openBlock .blockMappingStart).allowKeys (l.flow == 0)).dropPending
    return l.take 1 .key

/-- A colon: what is pending before it was a key. -/
def colon (l : Lexer) : Except Issue Lexer := do
  match l.pending.lookup l.flow with
  | some key =>
    let l := { l with pending := l.pending.filter fun p => p.1 != l.flow }
    let l := l.insert key.position .key
    let l :=
      if l.flow == 0 && l.opensAt key.column then (l.enter key.column).insert key.position .blockMappingStart
      else l
    return (l.allowKeys false).take 1 .value
  | none =>
    if l.flow == 0 && !l.keysAllowed then .error .valueNotAllowed
    else
      let l ← ((l.openBlock .blockMappingStart).allowKeys (l.flow == 0)).dropPending
      return l.take 1 .value

/-- What may follow the name of an anchor or an alias. -/
def endsName (x : Char) : Bool :=
  isGap x || ['?', ':', ',', ']', '\x7d', '%', '@', Char.ofNat 0x60].contains x

def named (l : Lexer) (token : String → Token) : Except Issue Lexer := do
  let l ← l.savePending
  let (name, c) := l.cursor.advance.span isNameChar
  if name.isEmpty || !endsName c.peek then .error .anchor
  else return { (l.push (token (String.ofList name))).allowKeys false with cursor := c }

def isUriChar (x : Char) : Bool :=
  isNameChar x || (";/?:@&=+$,.!~*'()[]%".toList.contains x)

/-- The handle of a tag at the cursor, and the place after it. -/
def tagHandle (c : Cursor) : Except Issue (Option String × Cursor) :=
  let word := c.rest.drop 1 |>.takeWhile fun x => !(x == ' ' || isBreakOrEnd x)
  if word.contains '!' then
    let (name, after) := c.advance.span isNameChar
    if after.peek == '!' then .ok (some ("!" ++ String.ofList name ++ "!"), after.advance)
    else .error .tag
  else .ok (some "!", c.advance)

def scanTag (c : Cursor) : Except Issue (Token × Cursor) := do
  let x := c.peekAt 1
  if x == '<' then
    let (uri, c) := (c.skip 2).span isUriChar
    if uri.isEmpty || c.peek != '>' then .error .tag
    else return (.tag none (String.ofList uri), c.advance)
  else if isGap x then return (.tag none "!", c.advance)
  else
    let (handle, c) ← tagHandle c
    let (uri, c) := c.span isUriChar
    if uri.isEmpty then .error .tag else return (.tag handle (String.ofList uri), c)

def tag (l : Lexer) : Except Issue Lexer := do
  let l ← l.savePending
  let (token, c) ← scanTag l.cursor
  if !(c.peek == ' ' || isBreakOrEnd c.peek) then .error .tag
  else return { (l.push token).allowKeys false with cursor := c }

def blockScalar (l : Lexer) (fold : Bool) : Except Issue Lexer := do
  let l ← (l.allowKeys true).dropPending
  let s ← block fold l.indent l.cursor
  return { l.push (.scalar (String.ofList s.text) false) with cursor := s.cursor }

def quotedScalar (l : Lexer) (double : Bool) : Except Issue Lexer := do
  let l ← l.savePending
  let s ← quoted double l.cursor
  return { (l.push (.scalar (String.ofList s.text) false)).allowKeys false with cursor := s.cursor }

def plainScalar (l : Lexer) : Except Issue Lexer := do
  let l ← l.savePending
  let s := plain (l.flow != 0) (l.indent + 1) l.cursor
  return { (l.push (.scalar (String.ofList s.text) true)).allowKeys s.newLine with cursor := s.cursor }

/-- Characters that cannot start a plain scalar. -/
def indicators : List Char :=
  ['-', '?', ':', ',', '[', ']', '\x7b', '\x7d', '#', '&', '*', '!', '|', '>', '\'', '"', '%', '@',
   Char.ofNat 0x60]

/-- Whether a plain scalar starts at the cursor. -/
def startsPlain (l : Lexer) : Bool :=
  let x := l.cursor.peek
  !(isGap x || indicators.contains x) ||
    (!isGap (l.cursor.peekAt 1) && (x == '-' || (l.flow == 0 && (x == '?' || x == ':'))))

/-- One more token, or several; the result tells whether the text has ended. -/
def next (l : Lexer) : Except Issue (Lexer × Bool) := do
  let l := skipGaps (l.cursor.left + 1) l.skipMark
  let l ← l.dropStale
  let l := l.unwind l.cursor.column
  let c := l.cursor
  let x := c.peek
  let gapNext := isGap (c.peekAt 1)
  let going (r : Except Issue Lexer) : Except Issue (Lexer × Bool) := r.map fun l => (l, false)
  if c.rest.isEmpty then
    let l ← l.leaveDocument
    return (l.push .streamEnd, true)
  else if x == '%' && c.column == 0 then going l.directive
  else if x == '-' && c.column == 0 && c.isSeparator then going (l.documentMark .documentStart)
  else if x == '.' && c.column == 0 && c.isSeparator then going (l.documentMark .documentEnd)
  else if x == '[' then going (l.openFlow .flowSequenceStart)
  else if x == '\x7b' then going (l.openFlow .flowMappingStart)
  else if x == ']' then going (l.closeFlow .flowSequenceEnd)
  else if x == '\x7d' then going (l.closeFlow .flowMappingEnd)
  else if x == ',' then going l.flowEntry
  else if x == '-' && gapNext then going l.blockEntry
  else if x == '?' && (l.flow != 0 || gapNext) then going l.explicitKey
  else if x == ':' && (l.flow != 0 || gapNext) then going l.colon
  else if x == '*' then going (l.named .alias)
  else if x == '&' then going (l.named .anchor)
  else if x == '!' then going l.tag
  else if x == '|' && l.flow == 0 then going (l.blockScalar false)
  else if x == '>' && l.flow == 0 then going (l.blockScalar true)
  else if x == '\'' then going (l.quotedScalar false)
  else if x == '"' then going (l.quotedScalar true)
  else if l.startsPlain then going l.plainScalar
  else .error .noToken

/-- The tokens before any that a pending key may still come before. -/
def settled (l : Lexer) : List Token :=
  let fresh := (l.pending.map Prod.snd).filter fun key => !isStale l.cursor key
  match (fresh.map PendingKey.position).min? with
  | some position => l.tokens.reverse.take position
  | none => l.tokens.reverse

/-- All tokens. Each round takes at least one character, so the length of the text is enough. -/
def run : Nat → Lexer → Except Issue (List Token)
  | 0, _ => .error .unexpectedEnd
  | fuel + 1, l =>
    match l.next with
    | .ok (l, ended) => if ended then .ok l.tokens.reverse else run fuel l
    | .error (.fault f) => .ok (l.settled ++ [.stop f])
    | .error issue => .error issue

end Lexer

/-- The tokens of a text. -/
def Token.scan (text : List Char) : Except Issue (List Token) :=
  if text.all isPrintable then Lexer.run (text.length + 1) (.start text) else .error .unprintable

end GraphScript.Yaml
