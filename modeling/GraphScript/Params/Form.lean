import GraphScript.Value.Display
import GraphScript.Value.Typed

namespace GraphScript

/-- Types that a parameter can have. -/
class Readable (α : Type) where
  /-- The value, if it fits. -/
  read? : Value → Option α
  /-- The value as a document. -/
  give : α → Value

instance : Readable String := ⟨Value.asText?, .text⟩

instance : Readable Binary64 := ⟨Value.asNumber?, .float⟩

instance : Readable Bool := ⟨Value.asFlag?, .bool⟩

instance : Readable Vec2 :=
  ⟨Value.asVec2?, fun v => .record [("x", .float v.x), ("y", .float v.y)]⟩

instance : Readable Value := ⟨some, id⟩

/-- A typed parameter: the keys it is read from, in order of precedence, and its default. -/
structure Slot (α : Type) where
  name : String
  keys : List String
  default : α

/-- A parameter with one key. -/
def Slot.plain {α : Type} (name : String) (default : α) : Slot α :=
  ⟨name, [name], default⟩

/-- A parameter with several keys; its own name is the last. -/
def Slot.keyed {α : Type} (keys : List String) (name : String) (default : α) : Slot α :=
  ⟨name, keys ++ [name], default⟩

/-- A parameter whose type is forgotten: what remains is which values fit it. -/
structure Field where
  name : String
  keys : List String
  normal? : Value → Option Value
  default : Value

/-- The first of the keys that is present, with its value. -/
def present? (keys : List String) (data : Params) : Option (String × Value) :=
  keys.findSome? fun key => (data.lookup key).map fun value => (key, value)

namespace Slot

variable {α : Type} [Readable α]

def field (slot : Slot α) : Field :=
  ⟨slot.name, slot.keys, fun v => (Readable.read? v : Option α).map Readable.give,
   Readable.give slot.default⟩

/-- The value of the first key that is present, and the default when it does not fit. -/
def get (slot : Slot α) (data : Params) : α :=
  match present? slot.keys data with
  | some (_, value) => (Readable.read? value).getD slot.default
  | none => slot.default

end Slot

/-- How a map is read as a record of type `σ`; while slots are still to come, `α` is a function
of them. -/
structure Form (σ α : Type) where
  title : String
  fields : List Field
  build : Params → α
  view : σ → Params

namespace Form

variable {σ α β : Type}

/-- A form without slots. -/
def start (title : String) (make : α) : Form σ α :=
  ⟨title, [], fun _ => make, fun _ => []⟩

/-- The form with one more slot, which `part` reads back from a record. -/
def slot [Readable α] (form : Form σ (α → β)) (slot : Slot α) (part : σ → α) : Form σ β :=
  ⟨form.title, form.fields ++ [slot.field], fun data => form.build data (slot.get data),
   fun record => form.view record ++ [(slot.name, Readable.give (part record))]⟩

end Form

/-- A parameter that did not fit its slot. -/
structure Dropped where
  key : String
  value : Value

/-- The key that a field reads, if its value does not fit. -/
def Field.malformed? (data : Params) (field : Field) : Option Dropped :=
  match present? field.keys data with
  | some (key, value) => if (field.normal? value).isSome then none else some ⟨key, value⟩
  | none => none

/-- Whether a field can take a value: an integer that it reads as a text has to be written. -/
def Field.canTake (field : Field) (value : Value) : Bool :=
  match value, field.normal? value with
  | .int n, some (.text _) => (Value.int n).isWritable
  | _, _ => true

/-- Whether a field can take the value that it reads. -/
def Field.isWritable (data : Params) (field : Field) : Bool :=
  (present? field.keys data).all fun entry => field.canTake entry.2

/-- What does not fit its field, in the order of the keys. -/
def malformed (fields : List Field) (data : Params) : List Dropped :=
  (fields.filterMap (Field.malformed? data)).mergeSort fun a b => decide (a.key ≤ b.key)

/-- The parameters without the dropped ones. -/
def without (bad : List Dropped) (data : Params) : Params :=
  data.filter fun entry => !(bad.any fun d => d.key == entry.1)

/-- Drops what does not fit, again and again, until every field reads a value that fits or none.
Each round drops at least one parameter, so as many rounds as parameters are enough. -/
def settle (fields : List Field) : Nat → Params → List Dropped × Params
  | 0, _ => ([], [])
  | rounds + 1, data =>
    match malformed fields data with
    | [] => ([], data)
    | bad =>
      let (later, data) := settle fields rounds (without bad data)
      (bad ++ later, data)

namespace Form

variable {σ : Type}

/-- The parameters that are given: null counts as missing. -/
def given (raw : Params) : Params :=
  raw.filter fun entry => !entry.2.isNull

/-- What was dropped, and the parameters without it. -/
def settled (form : Form σ σ) (raw : Params) : List Dropped × Params :=
  settle form.fields ((given raw).length + 1) (given raw)

/-- Reads a map as a record, and tells what was dropped. -/
def coerce (form : Form σ σ) (raw : Params) : List Dropped × σ :=
  let (dropped, data) := form.settled raw
  (dropped, form.build data)

/-- Whether every parameter that is read as a text can be written. -/
def isWritable (form : Form σ σ) (data : Params) : Bool :=
  form.fields.all (Field.isWritable data)

/-- The message about a dropped parameter. -/
def dropMessage (form : Form σ σ) (d : Dropped) : String :=
  form.title ++ ": dropping malformed parameter " ++ d.key ++ "=" ++ d.value.quoted

/-- The message that nothing is kept. -/
def defaultsMessage (form : Form σ σ) : String :=
  form.title ++ ": falling back to defaults"

end Form

end GraphScript
