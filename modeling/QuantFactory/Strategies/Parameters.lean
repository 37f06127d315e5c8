import QuantFactory.Strategies.SessionScan

/-!
# Parameters of the fixed strategies

The definitions of `strategies/models.py`, as far as they check a value, and the parameters
of the opening-range breakout.
-/

set_option autoImplicit false

namespace QuantFactory.Strategies

open QuantFactory.Library

inductive SettingType where
  | int
  | str
  deriving DecidableEq, Repr

inductive Setting where
  | int (value : Int)
  | text (value : String)
  | other (typeName : String)
  deriving DecidableEq, Repr

def SettingType.name : SettingType → String
  | .int => "int"
  | .str => "str"

def Setting.typeName : Setting → String
  | .int _ => "int"
  | .text _ => "str"
  | .other typeName => typeName

def Setting.hasType : Setting → SettingType → Bool
  | .int _, .int => true
  | .text _, .str => true
  | _, _ => false

structure ParameterDefinition where
  name : String
  valueType : SettingType
  default : Setting
  allowedValues : List Setting
  minimum : Option Int
  maximum : Option Int

def below (value : Setting) (bound : Option Int) : Bool :=
  match value, bound with
  | .int value, some bound => decide (value < bound)
  | _, _ => false

def above (value : Setting) (bound : Option Int) : Bool :=
  match value, bound with
  | .int value, some bound => decide (bound < value)
  | _, _ => false

/-- `ParameterDefinition.validate`; the messages leave the `repr` of the value out. -/
def ParameterDefinition.validate (definition : ParameterDefinition) (value : Setting) :
    Except StrategyError Unit := do
  raiseIf (!value.hasType definition.valueType) (.typeError
    (definition.name ++ " must be " ++ definition.valueType.name ++ ", not " ++ value.typeName))
  raiseIf (!definition.allowedValues.contains value)
    (.valueError (definition.name ++ " must be one of the allowed values"))
  raiseIf (below value definition.minimum) (.valueError (definition.name ++ " is too small"))
  raiseIf (above value definition.maximum) (.valueError (definition.name ++ " is too large"))

theorem ParameterDefinition.allowed_of_validate {definition : ParameterDefinition}
    {value : Setting} (ok : definition.validate value = .ok ()) :
    value ∈ definition.allowedValues := by
  obtain ⟨-, ok⟩ := raiseIf_bind_eq_ok.mp ok
  obtain ⟨allowed, -⟩ := raiseIf_bind_eq_ok.mp ok
  simpa using allowed

/-! ## The opening-range breakout -/

def rangeMinutesDefinition : ParameterDefinition where
  name := "range_minutes"
  valueType := .int
  default := .int 30
  allowedValues := [.int 5, .int 15, .int 30, .int 45, .int 60]
  minimum := some 5
  maximum := some 60

def breakoutOffsetDefinition : ParameterDefinition where
  name := "breakout_offset_ticks"
  valueType := .int
  default := .int 0
  allowedValues := [.int 0, .int 1, .int 2]
  minimum := some 0
  maximum := some 2

/-- `ORB_GRID_RANGE_DEFINITION`. -/
def gridRangeDefinition : ParameterDefinition where
  name := "range_minutes"
  valueType := .int
  default := .int 15
  allowedValues := [.int 5, .int 10, .int 15, .int 20, .int 30, .int 45, .int 60]
  minimum := some 5
  maximum := some 60

/-- `ORB_DIRECTION_DEFINITION`. -/
def directionDefinition : ParameterDefinition where
  name := "direction_variant"
  valueType := .str
  default := .text "long"
  allowedValues := [.text "long", .text "short"]
  minimum := none
  maximum := none

/-- The parameters of `MES_ORB_LONG_SPEC` and `MES_ORB_SHORT_SPEC`. -/
def orbParameters : List ParameterDefinition := [rangeMinutesDefinition, breakoutOffsetDefinition]

/-- The parameters of `MES_ORB_GRID_SPEC`. -/
def orbGridParameters : List ParameterDefinition :=
  [gridRangeDefinition, breakoutOffsetDefinition, directionDefinition]

/-- `_validate_parameters`: the stored value or the default of every definition, checked. -/
def validateParameters (definitions : List ParameterDefinition)
    (parameters : List (String × Setting)) : Except StrategyError (List (String × Setting)) := do
  let names := definitions.map (·.name)
  let unsupported := (parameters.map Prod.fst).filter fun name => !names.contains name
  raiseIf (!unsupported.isEmpty) (.valueError ("Unsupported parameter(s): " ++
    ", ".intercalate (unsupported.mergeSort fun a b => decide (a ≤ b))))
  let normalized := definitions.map fun definition =>
    (definition.name, (parameters.lookup definition.name).getD definition.default)
  let _ ← collect (fun entry : ParameterDefinition × (String × Setting) =>
    entry.1.validate entry.2.2) (definitions.zip normalized)
  .ok normalized

/-- `normalized[name]` of an integer parameter. -/
def integerSetting (normalized : List (String × Setting)) (name : String) :
    Except StrategyError Int :=
  match normalized.lookup name with
  | some (.int value) => .ok value
  | _ => .error .keyError

theorem validateParameters_allowed {definitions : List ParameterDefinition}
    {parameters normalized : List (String × Setting)}
    (ok : validateParameters definitions parameters = .ok normalized) :
    ∃ value : ParameterDefinition → Setting,
      normalized = definitions.map (fun definition => (definition.name, value definition)) ∧
        ∀ definition ∈ definitions, value definition ∈ definition.allowedValues := by
  obtain ⟨-, ok⟩ := raiseIf_bind_eq_ok.mp ok
  obtain ⟨checked, valid, done⟩ := bind_eq_ok.mp ok
  refine ⟨fun definition => (parameters.lookup definition.name).getD definition.default,
    (Except.ok.inj done).symm, fun definition member => ?_⟩
  obtain ⟨position, within, here⟩ := List.getElem_of_mem member
  have inZip : (definitions.zip (definitions.map fun definition =>
      (definition.name, (parameters.lookup definition.name).getD definition.default)))[position]? =
        some (definition, definition.name,
          (parameters.lookup definition.name).getD definition.default) := by
    have read := List.getElem?_eq_some_iff.mpr ⟨within, here⟩
    rw [List.getElem?_zip_eq_some, List.getElem?_map, read]
    exact ⟨rfl, rfl⟩
  obtain ⟨answer, -, answered⟩ := collect_getElem? valid inZip
  exact definition.allowed_of_validate answered

theorem rangeMinutes_of_validate {definitions : List ParameterDefinition}
    (approved : definitions = orbParameters ∨ definitions = orbGridParameters)
    {parameters normalized : List (String × Setting)}
    (ok : validateParameters definitions parameters = .ok normalized) {range : Int}
    (read : integerSetting normalized "range_minutes" = .ok range) : 5 ≤ range := by
  obtain ⟨value, rfl, allowed⟩ := validateParameters_allowed ok
  rcases approved with rfl | rfl
  · have choice := allowed rangeMinutesDefinition List.mem_cons_self
    have found : value rangeMinutesDefinition = .int range := by
      simp only [integerSetting, orbParameters, List.map_cons, rangeMinutesDefinition,
        List.lookup_cons_self] at read ⊢
      split at read
      · rename_i other same
        rw [Option.some.inj same, Except.ok.inj read]
      · cases read
    rw [found] at choice
    simp only [rangeMinutesDefinition, List.mem_cons, Setting.int.injEq, List.not_mem_nil,
      or_false] at choice
    omega
  · have choice := allowed gridRangeDefinition List.mem_cons_self
    have found : value gridRangeDefinition = .int range := by
      simp only [integerSetting, orbGridParameters, List.map_cons, gridRangeDefinition,
        List.lookup_cons_self] at read ⊢
      split at read
      · rename_i other same
        rw [Option.some.inj same, Except.ok.inj read]
      · cases read
    rw [found] at choice
    simp only [gridRangeDefinition, List.mem_cons, Setting.int.injEq, List.not_mem_nil,
      or_false] at choice
    omega

end QuantFactory.Strategies
