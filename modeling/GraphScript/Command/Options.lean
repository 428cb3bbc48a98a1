import GraphScript.Value.Display
import GraphScript.Text.Letter

namespace GraphScript.Command

/-- The options by what they are for. -/
inductive Flag where
  | help
  | out
  | config
  | entity
  | manifest
  | dryRun
  | logLevel
  | trace
  | records
deriving DecidableEq, Repr

namespace Flag

/-- All spellings, in the order in which they are listed. -/
def spellings : List (String × Flag) :=
  [("-h", help), ("--help", help), ("--out", out), ("--config", config), ("--entity", entity),
   ("--manifest", manifest), ("--dry-run", dryRun), ("--log-level", logLevel),
   ("--trace-lowering", trace), ("--log-records", records)]

def all : List Flag :=
  [help, out, config, entity, manifest, dryRun, logLevel, trace, records]

/-- The spellings of an option. -/
def names (flag : Flag) : List String :=
  (spellings.filter fun entry => entry.2 == flag).map Prod.fst

/-- The name of an option in complaints. -/
def name (flag : Flag) : String :=
  "/".intercalate flag.names

/-- The choices of a log level. -/
def levelChoices : List String :=
  ["DEBUG", "INFO", "WARNING", "ERROR", "OFF"]

/-- What stands for the value of an option that takes one. -/
def placeholder? : Flag → Option String
  | help | dryRun | trace => none
  | out => some "OUT"
  | config => some "CONFIG"
  | entity => some "ID"
  | manifest => some "MANIFEST"
  | logLevel => some ("\x7b" ++ ",".intercalate levelChoices ++ "\x7d")
  | records => some "DIR"

def takesValue (flag : Flag) : Bool :=
  flag.placeholder?.isSome

end Flag

/-- Why the words of a command line are refused. -/
inductive UsageIssue where
  | ambiguous (word : String) (spellings : List String)
  | missingValue (flag : Flag)
  | ignoredValue (flag : Flag) (value : String)
  | invalidLevel (value : String)
  | missingPayload
  | unrecognized (words : List String)
deriving DecidableEq, Repr

def UsageIssue.message : UsageIssue → String
  | ambiguous word spellings =>
    "ambiguous option: " ++ word ++ " could match " ++ ", ".intercalate spellings
  | missingValue flag => "argument " ++ flag.name ++ ": expected one argument"
  | ignoredValue flag value =>
    "argument " ++ flag.name ++ ": ignored explicit argument " ++ Text.quoted value
  | invalidLevel value =>
    "argument " ++ Flag.logLevel.name ++ ": invalid choice: " ++ Text.quoted value ++
      " (choose from " ++ ", ".intercalate (Flag.levelChoices.map Text.quoted) ++ ")"
  | missingPayload => "the following arguments are required: payload"
  | unrecognized words => "unrecognized arguments: " ++ " ".intercalate words

/-- What a word of the command line is. -/
inductive Word where
  /-- A value, or the payload. -/
  | plain (text : String)
  /-- Two dashes, after which all words are plain. -/
  | dashes
  | option (flag : Flag) (value : Option String)
  /-- It looks like an option and is none. -/
  | unknown (text : String)
deriving DecidableEq, Repr

namespace Word

/-- The text before the first equals sign, and the text behind it if there is one. -/
def cutValue (text : String) : String × Option String :=
  let cs := text.toList
  let name := String.ofList (cs.takeWhile (· != '='))
  match cs.dropWhile (· != '=') with
  | [] => (name, none)
  | _ :: value => (name, some (String.ofList value))

/-- The spellings that a word may abbreviate, with the values that it gives them. After one dash
only the letter behind it counts, and what follows is its value. -/
def candidates (text : String) : List (String × Flag × Option String) :=
  match text.toList with
  | '-' :: '-' :: _ =>
    let (name, value) := cutValue text
    (Flag.spellings.filter fun entry => name.toList.isPrefixOf entry.1.toList).map fun entry =>
      (entry.1, entry.2, value)
  | '-' :: letter :: rest =>
    Flag.spellings.filterMap fun entry =>
      if entry.1.toList = ['-', letter] then some (entry.1, entry.2, some (String.ofList rest))
      else if text.toList.isPrefixOf entry.1.toList then some (entry.1, entry.2, none)
      else none
  | _ => []

/-- Whether digits, or digits around a dot, follow the dash. -/
def isNegativeNumber (text : String) : Bool :=
  match text.toList with
  | '-' :: rest =>
    let rest := if rest.getLast? = some '\n' then rest.dropLast else rest
    match rest.dropWhile Text.isDecimal with
    | [] => !rest.isEmpty
    | '.' :: fraction => !fraction.isEmpty && fraction.all Text.isDecimal
    | _ => false
  | _ => false

/-- What a word is that stands before any two dashes. -/
def ofText (text : String) : Except UsageIssue Word :=
  if text.toList.head? ≠ some '-' ∨ text = "-" then .ok (.plain text)
  else if text = "--" then .ok .dashes
  else
    match Flag.spellings.lookup text with
    | some flag => .ok (.option flag none)
    | none =>
      let (name, value) := cutValue text
      match value, Flag.spellings.lookup name with
      | some value, some flag => .ok (.option flag (some value))
      | _, _ =>
        match candidates text with
        | [(_, flag, value)] => .ok (.option flag value)
        | [] =>
          if isNegativeNumber text ∨ text.toList.contains ' ' then .ok (.plain text)
          else .ok (.unknown text)
        | several => .error (.ambiguous text (several.map Prod.fst))

/-- What the words of a command line are. -/
def ofTexts : List String → Except UsageIssue (List Word)
  | [] => .ok []
  | text :: rest => do
    let word ← ofText text
    if word = .dashes then return .dashes :: rest.map .plain
    else return word :: (← ofTexts rest)

end Word

/-- What the command is to do. -/
structure Options where
  payload : String
  out : Option String
  /-- The settings file, if one is asked for; it may be asked for without a value. -/
  config : Option (Option String)
  /-- The entities that are asked for, with or without a value. -/
  entities : Option (List (Option String))
  manifest : Option String
  dryRun : Bool
  logLevel : Option String
  trace : Bool
  records : Option String
deriving DecidableEq, Repr

/-- The options as far as they are read. -/
structure Draft where
  options : Options
  hasPayload : Bool
  /-- Words that nothing takes. -/
  extras : List String

namespace Draft

def empty : Draft :=
  ⟨⟨"", none, none, none, none, false, none, false, none⟩, false, []⟩

def setPayload (d : Draft) (text : String) : Draft :=
  { d with options := { d.options with payload := text }, hasPayload := true }

def addExtra (d : Draft) (text : String) : Draft :=
  { d with extras := d.extras ++ [text] }

/-- Sets an option that takes no value. -/
def setFlag (d : Draft) : Flag → Draft
  | .dryRun => { d with options := { d.options with dryRun := true } }
  | .trace => { d with options := { d.options with trace := true } }
  | _ => d

/-- Sets an option that takes a value; a level has to be one of the choices. Two dashes are no
value, and most options are then as if they were not given. -/
def setValue (d : Draft) (flag : Flag) (given : String) : Except UsageIssue Draft :=
  let value := if given = "--" then none else some given
  match flag with
  | .out => .ok { d with options := { d.options with out := value } }
  | .config => .ok { d with options := { d.options with config := some value } }
  | .entity =>
    let entities := d.options.entities.getD [] ++ [value]
    .ok { d with options := { d.options with entities := some entities } }
  | .manifest => .ok { d with options := { d.options with manifest := value } }
  | .logLevel =>
    if value.all Flag.levelChoices.contains then
      .ok { d with options := { d.options with logLevel := value } }
    else .error (.invalidLevel given)
  | .records => .ok { d with options := { d.options with records := value } }
  | _ => .ok d

end Draft

/-- What a command line asks for. -/
inductive Request where
  | help
  | run (options : Options)
deriving DecidableEq, Repr

/-- The value that an option which takes none is given all the same. Behind a single dash, more
letters of the option itself are no value but repeat it. -/
def ignoredValue? (given : String) (value : Option String) : Option String :=
  match given.toList, value with
  | '-' :: 'h' :: _, some value =>
    match value.toList.dropWhile (· == 'h') with
    | [] => if value.isEmpty then some value else none
    | rest => some (String.ofList rest)
  | _, value => value

/-- Reads the words in order. -/
def readWords (d : Draft) : List (String × Word) → Except UsageIssue Request
  | [] =>
    if !d.hasPayload then .error .missingPayload
    else if !d.extras.isEmpty then .error (.unrecognized d.extras)
    else .ok (.run d.options)
  | (_, .plain text) :: rest =>
    if d.hasPayload then readWords (d.addExtra text) rest
    else
      match rest with
      | (_, .dashes) :: rest => readWords (d.setPayload text) rest
      | rest => readWords (d.setPayload text) rest
  | (_, .dashes) :: rest =>
    if d.hasPayload then readWords (d.addExtra "--") rest
    else
      match rest with
      | (_, .plain text) :: rest => readWords (d.setPayload text) rest
      | rest => readWords (d.addExtra "--") rest
  | (_, .unknown text) :: rest => readWords (d.addExtra text) rest
  | (given, .option flag value) :: rest =>
    if flag.takesValue then
      match value, rest with
      | some value, rest =>
        match d.setValue flag value with
        | .ok d => readWords d rest
        | .error issue => .error issue
      | none, (_, .plain value) :: rest =>
        match d.setValue flag value with
        | .ok d => readWords d rest
        | .error issue => .error issue
      | none, _ => .error (.missingValue flag)
    else
      match ignoredValue? given value with
      | some value => .error (.ignoredValue flag value)
      | none => if flag = .help then .ok .help else readWords (d.setFlag flag) rest

/-- Reads a command line. -/
def Request.ofTexts (texts : List String) : Except UsageIssue Request := do
  readWords .empty (texts.zip (← Word.ofTexts texts))

end GraphScript.Command
