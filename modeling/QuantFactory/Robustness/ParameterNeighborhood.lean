import Mathlib.Data.List.Sort
import Mathlib.Data.List.Lex
import Mathlib.Data.Prod.Lex
import Mathlib.Data.String.Basic
import Mathlib.Algebra.Order.Field.Rat
import QuantFactory.Library.Outcome

/-!
# Parameter neighbourhoods

`backtesting/robustness/parameter_neighborhood.py`: values near the locked parameters are
derived for each parameter, every combination of them is validated by the strategy, and
the distinct results are kept in order.  A float that is stored is finite and is its value;
the arithmetic that rounds is given.
-/

set_option autoImplicit false

namespace QuantFactory.Robustness

open QuantFactory.Library

/-! ## Values -/

inductive ParameterValue where
  | none
  | bool (value : Bool)
  | int (value : ℤ)
  | float (value : ℚ)
  | text (value : String)
  deriving DecidableEq

inductive RawValue where
  | plain (value : ParameterValue)
  | infinite (negative : Bool)
  | nan
  | object (repr : String)
  deriving DecidableEq

/-- `True`, `1` and `1.0` are one value. -/
inductive ValueKey where
  | none
  | number (value : ℚ)
  | text (value : String)
  deriving DecidableEq

def ParameterValue.key : ParameterValue → ValueKey
  | .none => .none
  | .bool value => .number (if value then 1 else 0)
  | .int value => .number value
  | .float value => .number value
  | .text value => .text value

/-- `==`. -/
def sameValue (a b : ParameterValue) : Bool := decide (a.key = b.key)

inductive ParameterError where
  | typeError (message : String)
  | valueError (message : String)
  | other (message : String)
  deriving DecidableEq

/-- `a < b`, which raises for values of different kinds. -/
def lessValue (a b : ParameterValue) : Except ParameterError Bool :=
  match a.key, b.key with
  | .number x, .number y => .ok (decide (x < y))
  | .text s, .text t => .ok (decide (s < t))
  | _, _ => .error (.typeError "'<' not supported between instances of different types")

/-- `<` on tuples: decided by the first values that differ. -/
def lessTuple : List ParameterValue → List ParameterValue → Except ParameterError Bool
  | [], [] => .ok false
  | [], _ :: _ => .ok true
  | _ :: _, [] => .ok false
  | a :: as, b :: bs => if sameValue a b then lessTuple as bs else lessValue a b

/-- Float arithmetic: `float(n)` raises `OverflowError` (here `none`) when `n` is too large. -/
structure FloatArithmetic where
  ofInt : ℤ → Option ℚ
  onePlus : ℚ → ℚ
  plus : ℚ → ℚ → RawValue
  times : ℚ → ℚ → RawValue

namespace FloatArithmetic
variable (floats : FloatArithmetic)

def toFloat (value : ParameterValue) : Except ParameterError ℚ :=
  match value with
  | .bool flag => .ok (if flag then 1 else 0)
  | .int n => orRaise (floats.ofInt n) (.other "int too large to convert to float")
  | .float x => .ok x
  | .none => .error (.typeError "float() argument must be a string or a real number")
  | .text _ => .error (.typeError "unsupported operand types")

/-- `value + offset`. -/
def addOffset (value : ParameterValue) (offset : ℤ) : Except ParameterError RawValue :=
  match value with
  | .bool flag => .ok (.plain (.int ((if flag then 1 else 0) + offset)))
  | .int n => .ok (.plain (.int (n + offset)))
  | .float x => do
      let y ← floats.toFloat (.int offset)
      .ok (floats.plus x y)
  | .none => .error (.typeError "unsupported operand type(s) for +")
  | .text _ => .error (.typeError "can only concatenate str (not \"int\") to str")

/-- `value * (1.0 + offset)`. -/
def scaled (value offset : ParameterValue) : Except ParameterError RawValue := do
  let y ← floats.toFloat offset
  let x ← floats.toFloat value
  .ok (floats.times x (floats.onePlus y))

/-- A number, not a bool, with `not math.isfinite(float(value))`. -/
def notFinite (value : RawValue) : Except ParameterError Bool :=
  match value with
  | .plain (.int n) => do
      let _ ← floats.toFloat (.int n)
      .ok false
  | .infinite _ => .ok true
  | .nan => .ok true
  | _ => .ok false

end FloatArithmetic

/-! ## Strategies and configurations -/

inductive ValueType where
  | int
  | float
  | other
  deriving DecidableEq

structure ParameterDefinition where
  valueType : ValueType
  normalize : RawValue → Except ParameterError ParameterValue

/-- A `dict` of parameters. -/
structure ParameterSet where
  entries : List (String × ParameterValue)
  distinct : (entries.map Prod.fst).Nodup

structure Strategy where
  parameterMap : List (String × ParameterDefinition)
  distinct : (parameterMap.map Prod.fst).Nodup
  validateParameters : List (String × RawValue) → Except ParameterError ParameterSet

inductive NeighborhoodMethod where
  | explicitValues (values : List RawValue)
  | integerOffsets (offsets : List ℤ)
  | percentageOffsets (offsets : List ParameterValue)

structure ParameterNeighborhoodDefinition where
  parameterName : String
  method : NeighborhoodMethod

structure NeighborhoodConfig where
  definitions : List ParameterNeighborhoodDefinition
  some : definitions ≠ []
  distinct : (definitions.map (·.parameterName)).Nodup

def NeighborhoodConfig.find (config : NeighborhoodConfig) (name : String) :
    Option ParameterNeighborhoodDefinition :=
  config.definitions.find? fun definition => definition.parameterName == name

inductive DerivationMethod where
  | explicitValues
  | integerOffsets
  | percentageOffsets
  | locked
  | strategyValidation
  | normalization
  deriving DecidableEq

inductive DerivationStatus where
  | accepted
  | rejected
  | duplicate
  deriving DecidableEq

inductive Recorded where
  | value (value : RawValue)
  | parameters (entries : List (String × ParameterValue))
  deriving DecidableEq

structure CandidateDerivation where
  parameterName : String
  lockedValue : Recorded
  method : DerivationMethod
  sourceValue : Recorded
  rawValue : Recorded
  normalizedValue : Option Recorded
  status : DerivationStatus
  rejectionReason : Option String
  normalizationCreatedDuplicate : Bool
  deriving DecidableEq

structure NeighborhoodCandidate where
  normalizedParameters : ParameterSet
  derivations : List CandidateDerivation
  isLockedPoint : Bool

structure NeighborhoodConstructionResult where
  requestedCandidateCount : Nat
  rawDerivedCount : Nat
  uniqueNormalizedCount : Nat
  acceptedCount : Nat
  rejectedCount : Nat
  duplicateCount : Nat
  candidates : List NeighborhoodCandidate
  rejectedDerivations : List CandidateDerivation

/-! ## Derived values -/

section Derive
variable (floats : FloatArithmetic)

def rawValues (definition : ParameterNeighborhoodDefinition) (valueType : ValueType)
    (lockedValue : ParameterValue) :
    Except ParameterError (DerivationMethod × List (RawValue × RawValue)) :=
  match definition.method with
  | .explicitValues values => .ok (.explicitValues, values.map fun value => (value, value))
  | .integerOffsets offsets => do
      raiseIf (valueType != .int)
        (.typeError ("integer offsets require integer parameter " ++ definition.parameterName))
      let raw ← collect (floats.addOffset lockedValue) offsets
      .ok (.integerOffsets, (offsets.map fun offset => RawValue.plain (.int offset)).zip raw)
  | .percentageOffsets offsets => do
      raiseIf (valueType == .other) (.typeError
        ("percentage offsets require numeric parameter " ++ definition.parameterName))
      raiseIf (valueType == .int) (.typeError
        ("percentage offsets are not supported for integer parameter " ++
          definition.parameterName))
      let raw ← collect (floats.scaled lockedValue) offsets
      .ok (.percentageOffsets, (offsets.map RawValue.plain).zip raw)

structure Choice where
  accepted : List (ParameterValue × CandidateDerivation)
  rejected : List CandidateDerivation
  derivedCount : Nat

def normalizedRaw (name : String) (definition : ParameterDefinition) (raw : RawValue) :
    Except ParameterError ParameterValue := do
  let unbounded ← floats.notFinite raw
  raiseIf unbounded (.valueError (name ++ " candidate must be finite"))
  definition.normalize raw

/-- The derivation of one raw value; only a `TypeError` or a `ValueError` rejects it. -/
def deriveValue (name : String) (method : DerivationMethod) (definition : ParameterDefinition)
    (lockedValue : ParameterValue) (sources : RawValue × RawValue) :
    Except ParameterError (Option ParameterValue × CandidateDerivation) :=
  let rejected (reason : String) : Option ParameterValue × CandidateDerivation :=
    (none, ⟨name, .value (.plain lockedValue), method, .value sources.1, .value sources.2, none,
      .rejected, some reason, false⟩)
  match normalizedRaw floats name definition sources.2 with
  | .ok value =>
      .ok (some value, ⟨name, .value (.plain lockedValue), method, .value sources.1,
        .value sources.2, some (.value (.plain value)), .accepted, none, false⟩)
  | .error (.typeError reason) => .ok (rejected reason)
  | .error (.valueError reason) => .ok (rejected reason)
  | .error (.other message) => .error (.other message)

def deriveValues (definition : ParameterNeighborhoodDefinition)
    (parameterDefinition : ParameterDefinition) (lockedValue : ParameterValue) :
    Except ParameterError (List (Option ParameterValue × CandidateDerivation)) := do
  let (method, sources) ← rawValues floats definition parameterDefinition.valueType lockedValue
  collect (deriveValue floats definition.parameterName method parameterDefinition lockedValue)
    sources

def acceptedValues (derived : List (Option ParameterValue × CandidateDerivation)) :
    List (ParameterValue × CandidateDerivation) :=
  derived.filterMap fun item => item.1.map fun value => (value, item.2)

def rejectedValues (derived : List (Option ParameterValue × CandidateDerivation)) :
    List CandidateDerivation :=
  derived.filterMap fun item => if item.1.isNone then some item.2 else none

def lockedChoice (name : String) (lockedValue : ParameterValue) : Choice where
  accepted := [(lockedValue, ⟨name, .value (.plain lockedValue), .locked,
    .value (.plain lockedValue), .value (.plain lockedValue),
    some (.value (.plain lockedValue)), .accepted, none, false⟩)]
  rejected := []
  derivedCount := 1

def parameterChoice (config : NeighborhoodConfig) (locked : ParameterSet)
    (parameter : String × ParameterDefinition) : Except ParameterError Choice := do
  let lockedValue ← orRaise (locked.entries.lookup parameter.1) (.other parameter.1)
  match config.find parameter.1 with
  | some definition =>
      let derived ← deriveValues floats definition parameter.2 lockedValue
      raiseIf (!(acceptedValues derived).any fun item => sameValue item.1 lockedValue)
        (.valueError ("neighborhood for " ++ parameter.1 ++ " must include locked value"))
      .ok ⟨acceptedValues derived, rejectedValues derived, derived.length⟩
  | none => .ok (lockedChoice parameter.1 lockedValue)

end Derive

/-! ## Combinations -/

def product {α : Type} : List (List α) → List (List α)
  | [] => [[]]
  | values :: rest => values.flatMap fun value => (product rest).map (value :: ·)

/-- `tuple(sorted(parameters.items()))`. -/
def sortedItems (parameters : ParameterSet) : List (String × ParameterValue) :=
  parameters.entries.insertionSort fun a b => a.1 ≤ b.1

/-- `==` on tuples of named values. -/
def sameItems (a b : List (String × ParameterValue)) : Bool :=
  decide (a.map (fun item => (item.1, item.2.key)) = b.map fun item => (item.1, item.2.key))

/-- `==` on mappings. -/
def sameParameters (a b : ParameterSet) : Bool :=
  decide (a.entries.length = b.entries.length) && a.entries.all fun item =>
    (b.entries.lookup item.1).any (sameValue item.2)

def sameAsSnapshot (a : ParameterSet) (snapshot : List (String × RawValue)) : Bool :=
  decide (a.entries.length = snapshot.length) && a.entries.all fun item =>
    match snapshot.lookup item.1 with
    | some (.plain value) => sameValue item.2 value
    | _ => false

structure Exploration where
  candidates : List NeighborhoodCandidate
  seen : List (List (String × ParameterValue))
  duplicateCount : Nat
  rejections : List CandidateDerivation

def startExploration : Exploration := ⟨[], [], 0, []⟩

def combinationRejection (locked : ParameterSet) (candidate : List (String × ParameterValue))
    (reason : String) : CandidateDerivation :=
  ⟨"__combination__", .parameters locked.entries, .strategyValidation, .parameters candidate,
    .parameters candidate, none, .rejected, some reason, false⟩

def duplicateCombination (locked : ParameterSet) (candidate : List (String × ParameterValue))
    (normalized : ParameterSet) : CandidateDerivation :=
  ⟨"__combination__", .parameters locked.entries, .normalization, .parameters candidate,
    .parameters candidate, some (.parameters normalized.entries), .duplicate,
    some "normalized candidate duplicates an earlier candidate", true⟩

section Build
variable (floats : FloatArithmetic) (strategy : Strategy)

def namedValues (combination : List (ParameterValue × CandidateDerivation)) :
    List (String × ParameterValue) :=
  (strategy.parameterMap.map Prod.fst).zip (combination.map Prod.fst)

def validateCombination (combination : List (ParameterValue × CandidateDerivation)) :
    Except ParameterError ParameterSet :=
  strategy.validateParameters
    ((namedValues strategy combination).map fun item => (item.1, .plain item.2))

def exploreCombination (locked : ParameterSet) (state : Exploration)
    (combination : List (ParameterValue × CandidateDerivation)) :
    Except ParameterError Exploration :=
  let candidate := namedValues strategy combination
  match validateCombination strategy combination with
  | .error (.typeError reason) =>
      .ok { state with rejections := state.rejections ++ [combinationRejection locked candidate reason] }
  | .error (.valueError reason) =>
      .ok { state with rejections := state.rejections ++ [combinationRejection locked candidate reason] }
  | .error (.other message) => .error (.other message)
  | .ok normalized =>
      if state.seen.any (sameItems (sortedItems normalized)) then
        .ok { state with
          duplicateCount := state.duplicateCount + 1
          rejections := state.rejections ++ [duplicateCombination locked candidate normalized] }
      else
        .ok { state with
          candidates := state.candidates ++
            [⟨normalized, combination.map Prod.snd, sameParameters normalized locked⟩]
          seen := state.seen ++ [sortedItems normalized] }

def exploreAll (locked : ParameterSet) :
    Exploration → List (List (ParameterValue × CandidateDerivation)) →
    Except ParameterError Exploration
  | state, [] => .ok state
  | state, combination :: rest => do
      let next ← exploreCombination strategy locked state combination
      exploreAll locked next rest

def sortKey (candidate : NeighborhoodCandidate) : Except ParameterError (List ParameterValue) :=
  collect (fun name =>
    orRaise (candidate.normalizedParameters.entries.lookup name) (.other name))
    (strategy.parameterMap.map Prod.fst)

/-- Values of all kinds in one order; within a kind it is that of `<`. -/
def valueRank (value : ParameterValue) : ℕ ×ₗ ℚ ×ₗ String :=
  match value.key with
  | .none => toLex (0, toLex (0, ""))
  | .number x => toLex (1, toLex (x, ""))
  | .text s => toLex (2, toLex (0, s))

/-- `candidates.sort(key=...)`, stable.  Two candidates that end up next to each other have
been compared, so the sort raises as soon as some two of the keys have no order. -/
def sortCandidates (candidates : List NeighborhoodCandidate) :
    Except ParameterError (List NeighborhoodCandidate) := do
  let keys ← collect (sortKey strategy) candidates
  raiseIf (!keys.all fun a => keys.all fun b => (lessTuple a b).toOption.isSome)
    (.typeError "'<' not supported between instances of different types")
  .ok (((keys.zip candidates).insertionSort fun a b =>
    a.1.map valueRank ≤ b.1.map valueRank).map Prod.snd)

def lockedIsFinite (locked : List (String × RawValue)) : Except ParameterError Unit :=
  match locked with
  | [] => .ok ()
  | (name, value) :: rest => do
      let unbounded ← floats.notFinite value
      raiseIf unbounded (.valueError ("locked parameter " ++ name ++ " must be finite"))
      lockedIsFinite rest

def neighborhoodChoices (lockedParameters : List (String × RawValue))
    (config : NeighborhoodConfig) : Except ParameterError (ParameterSet × List Choice) := do
  lockedIsFinite floats lockedParameters
  let locked ← strategy.validateParameters lockedParameters
  raiseIf (!sameAsSnapshot locked lockedParameters)
    (.valueError "locked parameters must already be normalized")
  raiseIf (config.definitions.any fun definition =>
      !(strategy.parameterMap.map Prod.fst).contains definition.parameterName)
    (.valueError "unsupported neighborhood parameters")
  let choices ← collect (parameterChoice floats config locked) strategy.parameterMap
  raiseIf (choices.any fun choice => choice.accepted.isEmpty)
    (.valueError "neighborhood derived no valid values")
  .ok (locked, choices)

def neighborhoodOf (locked : ParameterSet) (choices : List Choice) :
    Except ParameterError NeighborhoodConstructionResult := do
  let explored ← exploreAll strategy locked startExploration (product (choices.map (·.accepted)))
  let candidates ← sortCandidates strategy explored.candidates
  raiseIf (!candidates.any (·.isLockedPoint))
    (.valueError "valid neighborhood does not contain locked point")
  raiseIf candidates.isEmpty (.valueError "neighborhood contains no valid candidates")
  let rejections := choices.flatMap (·.rejected) ++ explored.rejections
  .ok { requestedCandidateCount := (choices.map (·.derivedCount)).prod
        rawDerivedCount := (choices.map (·.derivedCount)).sum
        uniqueNormalizedCount := candidates.length
        acceptedCount := candidates.length
        rejectedCount := rejections.countP fun item => item.status == .rejected
        duplicateCount := explored.duplicateCount
        candidates
        rejectedDerivations := rejections }

def buildNeighborhood (lockedParameters : List (String × RawValue))
    (config : NeighborhoodConfig) : Except ParameterError NeighborhoodConstructionResult := do
  let (locked, choices) ← neighborhoodChoices floats strategy lockedParameters config
  neighborhoodOf strategy locked choices

end Build

end QuantFactory.Robustness
