import GraphScript.Params.Action

namespace GraphScript

/-- The keys under which a condition names its variable. -/
def variableKeys : List String :=
  ["variable", "name", "var"]

structure VariableCompareParams where
  name : String
  value : Value

def VariableCompareParams.form : Form VariableCompareParams VariableCompareParams :=
  ((Form.start "VariableCompareParams" mk).slot (.keyed variableKeys "variable" "") (·.name)).slot
    (.plain "value" .null) (·.value)

/-- The parameters of a health limit. -/
structure ThresholdParams where
  value : Binary64

def ThresholdParams.form : Form ThresholdParams ThresholdParams :=
  (Form.start "ThresholdParams" mk).slot (.plain "value" (.zero false)) (·.value)

structure RoleParams where
  role : String

def RoleParams.form : Form RoleParams RoleParams :=
  (Form.start "RoleParams" mk).slot (.plain "role" "") (·.role)

structure InputParams where
  key : String

def InputParams.form : Form InputParams InputParams :=
  (Form.start "InputParams" mk).slot (.plain "key" "") (·.key)

/-- The parameters of a condition node that compares a variable itself. -/
structure ConditionNodeParams where
  name : String
  operator : String
  value : Value

def ConditionNodeParams.form : Form ConditionNodeParams ConditionNodeParams :=
  (((Form.start "ConditionNodeParams" mk).slot
    (.keyed variableKeys "variable" "") (·.name)).slot
    (.keyed ["operator", "op"] "operator" "==") (·.operator)).slot (.plain "value" .null) (·.value)

/-- A form with its record type left out: reading a map gives the named values of the record. -/
structure FormEntry where
  title : String
  fields : List Field
  read : Params → List String × Params

/-- The entry of a form. -/
def Form.entry {σ : Type} (form : Form σ σ) : FormEntry :=
  ⟨form.title, form.fields, fun raw =>
    let (dropped, record) := form.coerce raw
    (dropped.map form.dropMessage, form.view record)⟩

/-- Every form, with the type of its record. -/
def paramForms : List (Σ σ : Type, Form σ σ) :=
  [⟨_, EmptyParams.form⟩, ⟨_, LogParams.form⟩, ⟨_, MoveParams.form⟩, ⟨_, RotateParams.form⟩,
   ⟨_, ChaseTargetParams.form⟩, ⟨_, MoveTowardParams.form⟩, ⟨_, SetVarParams.form⟩,
   ⟨_, IncrementVarParams.form⟩, ⟨_, WaitParams.form⟩, ⟨_, EnableParams.form⟩,
   ⟨_, ChangeSceneParams.form⟩, ⟨_, HealthParams.form⟩, ⟨_, AttackParams.form⟩,
   ⟨_, FireProjectileParams.form⟩, ⟨_, SpawnEntityParams.form⟩, ⟨_, PlayAnimationParams.form⟩,
   ⟨_, PulseParams.form⟩, ⟨_, PlayParticleParams.form⟩, ⟨_, ParticleEmitterParams.form⟩,
   ⟨_, PlaySoundParams.form⟩, ⟨_, EmitSignalParams.form⟩, ⟨_, ClearSignalParams.form⟩,
   ⟨_, ShowDialogueParams.form⟩, ⟨_, RunModuleParams.form⟩, ⟨_, VariableCompareParams.form⟩,
   ⟨_, ThresholdParams.form⟩, ⟨_, RoleParams.form⟩, ⟨_, InputParams.form⟩,
   ⟨_, ConditionNodeParams.form⟩]

/-- The entries of all forms. -/
def allForms : List FormEntry :=
  paramForms.map fun form => form.2.entry

end GraphScript
