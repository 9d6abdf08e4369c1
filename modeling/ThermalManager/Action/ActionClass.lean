import ThermalManager.Utils.StringOperation

/-!
# The integer-valued actions

The action classes of `thermal_action/action` differ in how they read the text of a value, in the
value they fall back to and in the type they hand the result over in. Everything else is shared. A
class is a record of these differences; values are kept as integers in the range of their type.
-/

namespace ThermalManager

def fallbackValueUintZero : Int := 0
def intMax : Int := 2147483647
def intMin : Int := -2147483648
def uintMax : Int := 4294967295
def fallbackValueUintSoc : Int := intMax

/-- The field of a delayed entry that takes the value of the action. -/
inductive DelaySlot where
  | intDelayValue
  | uintDelayValue
  deriving DecidableEq

structure ActionClass where
  /-- How `AddActionValue` reads a text; nothing when it ignores the call. -/
  parse : String → Option Int
  slot : DelaySlot := .uintDelayValue
  /-- What `GetActionValue` returns when no value was added. -/
  fallbackValue : Int
  /-- The conversion from the type of the value list to the type of the result. -/
  toResult : Int → Int := id
  lastValueInit : Int := 0
  lastValueReset : Int := 0
  /-- `lastValue_` is a static member, which all actions of the class share. -/
  staticLastValue : Bool := false

/-! ### Reading a value -/

def strtolValue (value : String) : Option Int :=
  if value.isEmpty then none else some (toUint32 (strtol value))

/-- The airplane action reads the whole text as a number or ignores it. -/
def airplaneValue (value : String) : Option Int :=
  if value.isEmpty then none
  else if strtolEnd value ≠ [] then none
  else some (toUint32 (strtol value))

def strToUintValue (value : String) : Option Int :=
  if value.isEmpty then none else (strToUint value).map Int.ofNat

def atolValue (value : String) : Option Int :=
  if value.isEmpty then none else some (atol value)

/-! ### The classes -/

def actionAirplane : ActionClass where
  parse := airplaneValue
  fallbackValue := fallbackValueUintZero

def actionApplicationProcess : ActionClass where
  parse := strtolValue
  fallbackValue := fallbackValueUintZero

def actionCharger : ActionClass where
  parse := strtolValue
  fallbackValue := fallbackValueUintZero

def actionVoltage : ActionClass where
  parse := strtolValue
  fallbackValue := fallbackValueUintZero

def actionPopup : ActionClass where
  parse := strtolValue
  fallbackValue := fallbackValueUintZero

def actionShutdown : ActionClass where
  parse := strtolValue
  fallbackValue := fallbackValueUintZero

/-- The values are `uint32_t`, the result is `int32_t`; the fallback is `ThermalLevel::COOL`. -/
def actionThermalLevel : ActionClass where
  parse := strtolValue
  fallbackValue := 0
  toResult := toInt32
  lastValueInit := intMin
  lastValueReset := intMin
  staticLastValue := true

def actionCpuBig : ActionClass where
  parse := strtolValue
  fallbackValue := fallbackValueUintSoc

def actionCpuMed : ActionClass where
  parse := strtolValue
  fallbackValue := fallbackValueUintSoc

def actionCpuLit : ActionClass where
  parse := strtolValue
  fallbackValue := fallbackValueUintSoc

def actionGpu : ActionClass where
  parse := strtolValue
  fallbackValue := fallbackValueUintSoc

def actionCpuBoost : ActionClass where
  parse := strtolValue
  fallbackValue := fallbackValueUintZero
  lastValueInit := uintMax
  lastValueReset := uintMax

def actionCpuIsolate : ActionClass where
  parse := strtolValue
  fallbackValue := fallbackValueUintZero
  lastValueInit := uintMax
  lastValueReset := uintMax

def actionCpuNonVip : ActionClass where
  parse := strtolValue
  fallbackValue := fallbackValueUintZero
  lastValueInit := uintMax
  lastValueReset := uintMax

def actionSocPerf : ActionClass where
  parse := strToUintValue
  fallbackValue := fallbackValueUintZero

/-- The fallback is the second field of the parameters, if it is a number. -/
def actionSocPerfResource (params : String) : Option ActionClass := do
  let paramList ← splitString params '|'
  let fallbackValue : Int := ((paramList[1]?).bind strToUint).elim 0 Int.ofNat
  some { parse := strToUintValue, fallbackValue := fallbackValue }

/-- The values are `int64_t`, but a delayed value passes through an `int32_t` field. -/
def actionNode (params : String) : Option ActionClass := do
  let paramList ← splitString params '|'
  let fallbackValue := (paramList[1]?).elim 0 atol
  some {
    parse := atolValue
    slot := .intDelayValue
    fallbackValue := fallbackValue
    lastValueInit := intMax
    lastValueReset := intMax }

/-! ### The factory -/

/-- `ThermalActionFactory::Create` followed by `InitParams`, for the integer-valued classes. The
outer `Option` is the factory's null pointer, the inner one a call that does not return. -/
def createAction (actionClass params : String) : Option (Option ActionClass) :=
  match actionClass with
  | "airplane" => some (some actionAirplane)
  | "cpu_big" => some (some actionCpuBig)
  | "cpu_med" => some (some actionCpuMed)
  | "cpu_lit" => some (some actionCpuLit)
  | "gpu" => some (some actionGpu)
  | "shut_down" => some (some actionShutdown)
  | "thermallevel" => some (some actionThermalLevel)
  | "popup" => some (some actionPopup)
  | "current" => some (some actionCharger)
  | "voltage" => some (some actionVoltage)
  | "boost" => some (some actionCpuBoost)
  | "isolate" => some (some actionCpuIsolate)
  | "nonvip" => some (some actionCpuNonVip)
  | "process_ctrl" => some (some actionApplicationProcess)
  | "socperf" => some (some actionSocPerf)
  | "socperf_resource" => some (actionSocPerfResource params)
  | "node" => some (actionNode params)
  | _ => none

theorem actionSocPerfResource_toResult {params : String} {cls : ActionClass}
    (hcreate : actionSocPerfResource params = some cls) : cls.toResult = id := by
  obtain ⟨paramList, -, hcls⟩ := Option.bind_eq_some_iff.mp hcreate
  cases hcls
  rfl

theorem actionNode_toResult {params : String} {cls : ActionClass}
    (hcreate : actionNode params = some cls) : cls.toResult = id := by
  obtain ⟨paramList, -, hcls⟩ := Option.bind_eq_some_iff.mp hcreate
  cases hcls
  rfl

/-- Only the thermal level is converted on its way out. -/
theorem createAction_toResult {name params : String} {cls : ActionClass}
    (hcreate : createAction name params = some (some cls)) (hname : name ≠ "thermallevel") :
    cls.toResult = id := by
  unfold createAction at hcreate
  split at hcreate
  all_goals first
    | exact absurd rfl hname
    | exact actionSocPerfResource_toResult (Option.some.inj hcreate)
    | exact actionNode_toResult (Option.some.inj hcreate)
    | cases hcreate <;> rfl

end ThermalManager
