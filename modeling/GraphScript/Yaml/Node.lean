import GraphScript.Yaml.Tag
import GraphScript.Yaml.Token

namespace GraphScript.Yaml

inductive Node where
  | scalar (tag : Tag) (text : String)
  | sequence (tag : Tag) (items : List Node)
  | mapping (tag : Tag) (entries : List (Node × Node))

namespace Node

/-- Anchored nodes by name. -/
abbrev Anchors := List (String × Node)

/-- What is left to read, and the anchors so far. -/
structure State where
  tokens : List Token
  anchors : Anchors

def State.head (s : State) : Token :=
  s.tokens.headD .streamEnd

def State.next (s : State) : State :=
  { s with tokens := s.tokens.drop 1 }

/-- Refuses the next token, unless the tokens end there. -/
def State.refuse {α : Type} (s : State) (issue : Issue) : Except Issue α :=
  match s.head with
  | .stop f => .error (.fault f)
  | _ => .error issue

/-- The empty scalar, where a node is left out. -/
def empty : Node :=
  .scalar .null ""

/-- The anchor and the tag in front of a node. -/
structure Properties where
  anchor : Option String
  tag : Option String

/-- The full name of a tag. -/
def tagName (handle : Option String) (suffix : String) : Except Issue String :=
  match handle with
  | none => .ok suffix
  | some "!" => .ok ("!" ++ suffix)
  | some "!!" => .ok ("tag:yaml.org,2002:" ++ suffix)
  | some _ => .error .unknownTag

/-- Reads the properties of a node: an anchor and a tag, in either order. -/
def properties (s : State) : Except Issue (Properties × State) := do
  match s.head with
  | .anchor name =>
    let s := s.next
    match s.head with
    | .tag handle suffix => return (⟨some name, some (← tagName handle suffix)⟩, s.next)
    | _ => return (⟨some name, none⟩, s)
  | .tag handle suffix =>
    let s := s.next
    match s.head with
    | .stop f => .error (.fault f)
    | .anchor name => return (⟨some name, some (← tagName handle suffix)⟩, s.next)
    | _ => return (⟨none, some (← tagName handle suffix)⟩, s)
  | _ => return (⟨none, none⟩, s)

/-- The type of a scalar; without a tag of its own it depends on its text, if that is plain. -/
def scalarTag (tag : Option String) (isPlain : Bool) (text : String) : Tag :=
  match tag with
  | none => if isPlain then .ofPlain text else .text
  | some "!" => .ofPlain text
  | some name => .ofName name

def collectionTag (tag : Option String) (own : Tag) : Tag :=
  match tag with
  | none => own
  | some "!" => own
  | some name => .ofName name

/-- Whether the anchor in front of a node is that of an earlier one. -/
def isRepeated (p : Properties) (s : State) : Bool :=
  match p.anchor with
  | none => false
  | some name => (s.anchors.lookup name).isSome

/-- Remembers an anchored node. -/
def remember (p : Properties) (node : Node) (s : State) : Except Issue (Node × State) :=
  match p.anchor with
  | none => .ok (node, s)
  | some name =>
    if isRepeated p s then .error .duplicateAnchor
    else .ok (node, { s with anchors := (name, node) :: s.anchors })

/-- Where a node stands: in a block, in a block where a sequence needs no indentation, or in a
flow collection. -/
inductive Place where
  | block
  | value
  | flow
deriving DecidableEq, Repr

mutual

/-- Reads a node. -/
def parse : Nat → Place → State → Except Issue (Node × State)
  | 0, _, _ => .error .unexpectedEnd
  | fuel + 1, place, s =>
    match s.head with
    | .alias name =>
      match s.anchors.lookup name with
      | some node => .ok (node, s.next)
      | none => .error .undefinedAlias
    | _ => do
      let (p, s) ← properties s
      if isRepeated p s then s.refuse .duplicateAnchor
      else match s.head with
      | .scalar text isPlain => remember p (.scalar (scalarTag p.tag isPlain text) text) s.next
      | .flowSequenceStart =>
        let (items, s) ← flowItems fuel true s.next
        remember p (.sequence (collectionTag p.tag .sequence) items) s
      | .flowMappingStart =>
        let (entries, s) ← flowEntries fuel true s.next
        remember p (.mapping (collectionTag p.tag .mapping) entries) s
      | .blockEntry =>
        if place = .value then
          let (items, s) ← looseItems fuel s
          remember p (.sequence (collectionTag p.tag .sequence) items) s
        else blank p s
      | .blockSequenceStart =>
        if place = .flow then blank p s
        else
          let (items, s) ← blockItems fuel s.next
          remember p (.sequence (collectionTag p.tag .sequence) items) s
      | .blockMappingStart =>
        if place = .flow then blank p s
        else
          let (entries, s) ← blockEntries fuel s.next
          remember p (.mapping (collectionTag p.tag .mapping) entries) s
      | _ => blank p s

/-- A node of which there are only properties. -/
def blank (p : Properties) (s : State) : Except Issue (Node × State) :=
  if p.anchor.isNone && p.tag.isNone then s.refuse .content
  else remember p (.scalar (scalarTag p.tag p.tag.isNone "") "") s

/-- The items of a block sequence, up to its end. -/
def blockItems : Nat → State → Except Issue (List Node × State)
  | 0, _ => .error .unexpectedEnd
  | fuel + 1, s =>
    match s.head with
    | .blockEntry => do
      let s := s.next
      let (item, s) ←
        match s.head with
        | .blockEntry => .ok (empty, s)
        | .blockEnd => .ok (empty, s)
        | _ => parse fuel .block s
      let (rest, s) ← blockItems fuel s
      return (item :: rest, s)
    | .blockEnd => .ok ([], s.next)
    | _ => s.refuse .collectionEnd

/-- The items of a sequence at the indentation of its key. -/
def looseItems : Nat → State → Except Issue (List Node × State)
  | 0, _ => .error .unexpectedEnd
  | fuel + 1, s =>
    match s.head with
    | .blockEntry => do
      let s := s.next
      let (item, s) ←
        match s.head with
        | .blockEntry => .ok (empty, s)
        | .key => .ok (empty, s)
        | .value => .ok (empty, s)
        | .blockEnd => .ok (empty, s)
        | _ => parse fuel .block s
      let (rest, s) ← looseItems fuel s
      return (item :: rest, s)
    | _ => .ok ([], s)

/-- A key or a value of a block mapping; it may be left out. -/
def blockPart : Nat → State → Except Issue (Node × State)
  | 0, _ => .error .unexpectedEnd
  | fuel + 1, s =>
    match s.head with
    | .key => .ok (empty, s)
    | .value => .ok (empty, s)
    | .blockEnd => .ok (empty, s)
    | _ => parse fuel .value s

/-- The entries of a block mapping, up to its end. -/
def blockEntries : Nat → State → Except Issue (List (Node × Node) × State)
  | 0, _ => .error .unexpectedEnd
  | fuel + 1, s =>
    match s.head with
    | .key => do
      let (key, s) ← blockPart fuel s.next
      let (value, s) ←
        match s.head with
        | .value => blockPart fuel s.next
        | _ => .ok (empty, s)
      let (rest, s) ← blockEntries fuel s
      return ((key, value) :: rest, s)
    | .blockEnd => .ok ([], s.next)
    | _ => s.refuse .collectionEnd

/-- A node of a flow collection that may be left out before `closing`. -/
def flowPart : Nat → Token → Bool → State → Except Issue (Node × State)
  | 0, _, _, _ => .error .unexpectedEnd
  | fuel + 1, closing, isKey, s =>
    if s.head = closing || s.head = .flowEntry || (isKey && s.head = .value) then .ok (empty, s)
    else parse fuel .flow s

/-- The value after a key of a flow collection. -/
def flowValue : Nat → Token → State → Except Issue (Node × State)
  | 0, _, _ => .error .unexpectedEnd
  | fuel + 1, closing, s =>
    match s.head with
    | .value => flowPart fuel closing false s.next
    | _ => .ok (empty, s)

/-- The items of a flow sequence, up to its end; a single pair is a mapping. -/
def flowItems : Nat → Bool → State → Except Issue (List Node × State)
  | 0, _, _ => .error .unexpectedEnd
  | fuel + 1, first, s => do
    if s.head = .flowSequenceEnd then return ([], s.next)
    let s ← if first then .ok s else if s.head = .flowEntry then .ok s.next else s.refuse .collectionEnd
    match s.head with
    | .key =>
      let (key, s) ← flowPart fuel .flowSequenceEnd true s.next
      let (value, s) ← flowValue fuel .flowSequenceEnd s
      let (rest, s) ← flowItems fuel false s
      return (.mapping .mapping [(key, value)] :: rest, s)
    | .flowSequenceEnd => return ([], s.next)
    | _ =>
      let (item, s) ← parse fuel .flow s
      let (rest, s) ← flowItems fuel false s
      return (item :: rest, s)

/-- The entries of a flow mapping, up to its end. -/
def flowEntries : Nat → Bool → State → Except Issue (List (Node × Node) × State)
  | 0, _, _ => .error .unexpectedEnd
  | fuel + 1, first, s => do
    if s.head = .flowMappingEnd then return ([], s.next)
    let s ← if first then .ok s else if s.head = .flowEntry then .ok s.next else s.refuse .collectionEnd
    match s.head with
    | .key =>
      let (key, s) ← flowPart fuel .flowMappingEnd true s.next
      let (value, s) ← flowValue fuel .flowMappingEnd s
      let (rest, s) ← flowEntries fuel false s
      return ((key, value) :: rest, s)
    | .flowMappingEnd => return ([], s.next)
    | _ =>
      let (key, s) ← parse fuel .flow s
      let (rest, s) ← flowEntries fuel false s
      return ((key, empty) :: rest, s)

end

/-- Whether a document has no content before this token. -/
def endsDocument : Token → Bool
  | .directive => true
  | .documentStart => true
  | .documentEnd => true
  | .streamEnd => true
  | _ => false

/-- Skips directives, which need a document after them. -/
def dropDirectives : List Token → List Token
  | .directive :: rest => dropDirectives rest
  | tokens => tokens

/-- Reads the one document of a stream; there may be none. -/
def ofTokens (tokens : List Token) : Except Issue (Option Node) := do
  let fuel := 4 * tokens.length + 4
  match dropDirectives tokens with
  | [] => .error .unexpectedEnd
  | first :: rest =>
    if first = .streamEnd && tokens.length = 1 then return none
    else
      let (node, s) ←
        if first = .documentStart then
          if endsDocument (rest.headD .streamEnd) then .ok (empty, ⟨rest, []⟩)
          else parse fuel .block ⟨rest, []⟩
        else if first = tokens.headD .streamEnd then parse fuel .block ⟨tokens, []⟩
        else State.refuse ⟨first :: rest, []⟩ .directive
      match s.tokens.dropWhile (· == .documentEnd) with
      | [.streamEnd] => return some node
      | rest => State.refuse ⟨rest, []⟩ .severalDocuments

end Node

end GraphScript.Yaml
