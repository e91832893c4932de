import Aise.Lib.OrdMap
import Aise.Lib.Result
import Aise.Lib.Text
import Aise.Prompt.Model

/-! A slot says which kinds of asset may fill it, which variables its template needs and what the text
that comes out must be like. -/
namespace Aise.Domain.Prompt
open RustText

inductive VarType where
  | string | number | bool | array | object | any
  deriving DecidableEq

/-- The `Debug` name. -/
def VarType.debug : VarType → String
  | .string => "String"
  | .number => "Number"
  | .bool => "Bool"
  | .array => "Array"
  | .object => "Object"
  | .any => "Any"

structure VarSpec where
  name : String
  varType : VarType
  required : Bool
  deriving DecidableEq

structure OutputContract where
  minLength : Option Nat
  maxLength : Option Nat
  mustContain : List String
  mustNotContain : List String
  deriving DecidableEq

structure SlotSpec where
  slotId : SlotId
  allowedKinds : List PromptKind
  required : Bool
  structuredOutput : Bool
  outputContractRequired : Bool
  optimizable : Bool
  allowChildRender : Bool
  vars : List VarSpec
  outputContract : Option OutputContract
  deriving DecidableEq

def SlotSpec.acceptsKind (spec : SlotSpec) (kind : PromptKind) : Bool := spec.allowedKinds.contains kind

def SlotSpec.unsupported (spec : SlotSpec) : List String :=
  (if spec.structuredOutput then ["structured_output"] else []) ++
  (if spec.outputContractRequired then ["output_contract_required"] else []) ++
  (if spec.optimizable then ["optimizable"] else []) ++
  (if spec.allowChildRender then ["allow_child_render"] else [])

def SlotSpec.validateSupportedOptions (spec : SlotSpec) : Except PromptError Unit :=
  let slotId := spec.slotId
  let unsupported := ", ".intercalate spec.unsupported
  Result.failIf (spec.unsupported ≠ [])
    (.catalogLoad s!"slot `{slotId}` uses unsupported options: {unsupported}")

abbrev SlotRegistry := BTreeMap SlotId SlotSpec

def registerSlot (registry : SlotRegistry) (spec : SlotSpec) : Except PromptError SlotRegistry := do
  spec.validateSupportedOptions
  if spec.slotId ∈ registry then
    throw (.catalogLoad s!"duplicate slot_id `{spec.slotId}` in slots.yaml")
  else return registry.insert spec.slotId spec

/-- `parse_slots_yaml`, after the YAML is read. -/
def registerSlots (slots : List SlotSpec) : Except PromptError SlotRegistry :=
  slots.foldlM registerSlot ∅

/-! ### Variables -/

/-- The types of JSON values. -/
inductive JsonType where
  | null | bool | number | string | array | object
  deriving DecidableEq

def JsonType.display : JsonType → String
  | .null => "null"
  | .bool => "bool"
  | .number => "number"
  | .string => "string"
  | .array => "array"
  | .object => "object"

def VarType.accepts : VarType → JsonType → Bool
  | .any, _ => true
  | .string, actual => actual = .string
  | .number, actual => actual = .number
  | .bool, actual => actual = .bool
  | .array, actual => actual = .array
  | .object, actual => actual = .object

section
variable {Value : Type} (typeOf : Value → JsonType)

def checkVarType (name : String) (expected : VarType) (value : Value) : Except PromptError Unit :=
  Result.failIf (expected.accepts (typeOf value) = false) (.schemaValidationFailed
    s!"variable `{name}` expected type {expected.debug}, got {(typeOf value).display}")

def checkRequired (vars : BTreeMap String Value) (spec : VarSpec) : Except PromptError Unit :=
  if spec.required then
    match vars[spec.name]? with
    | none => .error (.schemaValidationFailed s!"required variable `{spec.name}` is missing")
    | some value => Result.failIf (typeOf value = .null) (.schemaValidationFailed
        s!"required variable `{spec.name}` is null")
  else .ok ⟨⟩

def checkGiven (vars : BTreeMap String Value) (spec : VarSpec) : Except PromptError Unit :=
  match vars[spec.name]? with
  | none => .ok ⟨⟩
  | some value =>
    if typeOf value = .null then .ok ⟨⟩ else checkVarType typeOf spec.name spec.varType value

def checkVar (vars : BTreeMap String Value) (spec : VarSpec) : Except PromptError Unit := do
  checkRequired typeOf vars spec
  checkGiven typeOf vars spec

def validateInputVars (slotSpec : SlotSpec) (vars : BTreeMap String Value) : Except PromptError Unit :=
  if slotSpec.vars = [] then .ok ⟨⟩ else slotSpec.vars.forM (checkVar typeOf vars)

end

/-! ### What comes out -/

def checkMinLength (slotId : SlotId) (rendered : String) : Option Nat → Except PromptError Unit
  | some min => Result.failIf (len rendered < min) (.outputContractViolation slotId
      s!"rendered length {len rendered} is below minimum {min}")
  | none => .ok ⟨⟩

def checkMaxLength (slotId : SlotId) (rendered : String) : Option Nat → Except PromptError Unit
  | some max => Result.failIf (len rendered > max) (.outputContractViolation slotId
      s!"rendered length {len rendered} exceeds maximum {max}")
  | none => .ok ⟨⟩

def validateOutputContract (slotId : SlotId) (contract : OutputContract) (rendered : String) :
    Except PromptError Unit := do
  checkMinLength slotId rendered contract.minLength
  checkMaxLength slotId rendered contract.maxLength
  contract.mustContain.forM fun needle =>
    Result.failIf (contains needle.toList rendered.toList = false) (.outputContractViolation slotId
      s!"rendered output must contain \"{needle}\"")
  contract.mustNotContain.forM fun needle =>
    Result.failIf (contains needle.toList rendered.toList = true) (.outputContractViolation slotId
      s!"rendered output must not contain \"{needle}\"")

/-! ### What the checks say -/

section
variable {Value : Type} {typeOf : Value → JsonType} {vars : BTreeMap String Value} {spec : SlotSpec}

/-- The variables that a template of the slot can rely on. -/
structure VarSpec.Provided (typeOf : Value → JsonType) (vars : BTreeMap String Value) (spec : VarSpec) :
    Prop where
  present : spec.required = true → ∃ value : Value, vars[spec.name]? = some value ∧ typeOf value ≠ .null
  typed : ∀ value : Value, vars[spec.name]? = some value → typeOf value ≠ .null →
    spec.varType.accepts (typeOf value) = true

theorem checkRequired_eq_ok {spec : VarSpec} :
    checkRequired typeOf vars spec = .ok ⟨⟩ ↔
      (spec.required = true → ∃ value : Value, vars[spec.name]? = some value ∧ typeOf value ≠ .null) := by
  unfold checkRequired
  split
  · rename_i required
    cases vars[spec.name]? with
    | none => simp [required]
    | some value => simp [required, Result.failIf_eq_ok]
  · rename_i optional
    simp [optional]

theorem checkGiven_eq_ok {spec : VarSpec} :
    checkGiven typeOf vars spec = .ok ⟨⟩ ↔
      ∀ value : Value, vars[spec.name]? = some value → typeOf value ≠ .null →
        spec.varType.accepts (typeOf value) = true := by
  unfold checkGiven
  cases vars[spec.name]? with
  | none => simp
  | some value =>
    dsimp only
    split
    · rename_i null
      simp [null]
    · rename_i given
      simp [given, checkVarType, Result.failIf_eq_ok]

theorem validateInputVars_eq_ok :
    validateInputVars typeOf spec vars = .ok ⟨⟩ ↔ ∀ var ∈ spec.vars, var.Provided typeOf vars := by
  have each (var : VarSpec) : checkVar typeOf vars var = .ok ⟨⟩ ↔ var.Provided typeOf vars := by
    rw [checkVar, Result.check_bind_eq_ok, checkRequired_eq_ok, checkGiven_eq_ok]
    exact ⟨fun ⟨present, typed⟩ => ⟨present, typed⟩, fun provided => ⟨provided.present, provided.typed⟩⟩
  unfold validateInputVars
  split
  · rename_i none
    simp [none]
  · rw [Result.forM_eq_ok]
    exact forall₂_congr fun var _ => each var

theorem validateInputVars_fails :
    Result.OnlyFails (fun failure => ∃ message, failure = .schemaValidationFailed message)
      (validateInputVars typeOf spec vars) := by
  unfold validateInputVars
  split
  · exact .ok _
  · refine .forM fun var _ => .bind ?_ fun _ _ => ?_
    · unfold checkRequired
      split
      · split
        · exact .error ⟨_, rfl⟩
        · exact .failIf ⟨_, rfl⟩
      · exact .ok _
    · unfold checkGiven
      split
      · exact .ok _
      · split
        · exact .ok _
        · exact .failIf ⟨_, rfl⟩

end

/-- What a contract asks of a text. -/
structure OutputContract.Met (contract : OutputContract) (rendered : String) : Prop where
  longEnough : ∀ min, contract.minLength = some min → min ≤ len rendered
  shortEnough : ∀ max, contract.maxLength = some max → len rendered ≤ max
  has : ∀ needle ∈ contract.mustContain, contains needle.toList rendered.toList = true
  lacks : ∀ needle ∈ contract.mustNotContain, contains needle.toList rendered.toList = false

theorem validateOutputContract_eq_ok {slotId : SlotId} {contract : OutputContract} {rendered : String} :
    validateOutputContract slotId contract rendered = .ok ⟨⟩ ↔ contract.Met rendered := by
  have min : checkMinLength slotId rendered contract.minLength = .ok ⟨⟩ ↔
      ∀ min, contract.minLength = some min → min ≤ len rendered := by
    cases contract.minLength with
    | none => simp [checkMinLength]
    | some min => simp [checkMinLength, Result.failIf_eq_ok]
  have max : checkMaxLength slotId rendered contract.maxLength = .ok ⟨⟩ ↔
      ∀ max, contract.maxLength = some max → len rendered ≤ max := by
    cases contract.maxLength with
    | none => simp [checkMaxLength]
    | some max => simp [checkMaxLength, Result.failIf_eq_ok]
  rw [validateOutputContract, Result.check_bind_eq_ok, Result.check_bind_eq_ok, Result.check_bind_eq_ok,
    min, max, Result.forM_eq_ok, Result.forM_eq_ok]
  simp only [Result.failIf_eq_ok, Bool.not_eq_false, Bool.not_eq_true]
  constructor
  · rintro ⟨longEnough, shortEnough, has, lacks⟩
    exact ⟨longEnough, shortEnough, has, lacks⟩
  · rintro ⟨longEnough, shortEnough, has, lacks⟩
    exact ⟨longEnough, shortEnough, has, lacks⟩

theorem validateOutputContract_fails {slotId : SlotId} {contract : OutputContract} {rendered : String} :
    Result.OnlyFails (fun failure => ∃ reason, failure = .outputContractViolation slotId reason)
      (validateOutputContract slotId contract rendered) := by
  refine .bind ?_ fun _ _ => .bind ?_ fun _ _ => .bind ?_ fun _ _ => ?_
  · unfold checkMinLength
    split
    · exact .failIf ⟨_, rfl⟩
    · exact .ok _
  · unfold checkMaxLength
    split
    · exact .failIf ⟨_, rfl⟩
    · exact .ok _
  · exact .forM fun needle _ => .failIf ⟨_, rfl⟩
  · exact .forM fun needle _ => .failIf ⟨_, rfl⟩

end Aise.Domain.Prompt
