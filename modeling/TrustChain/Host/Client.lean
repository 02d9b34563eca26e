import TrustChain.Ta.Messages

namespace TrustChain
namespace Host

open Library Tee

/-!
# What the host program gets from outside

The host program links against jansson, which parses the bodies of requests,
and libteec, which hands an operation over to the trusted application.  The
parser is a parameter of the handlers.  libteec shares as many bytes of a memory
reference as its stated size, and nothing that the host keeps behind them.
-/

/-! ## jansson -/

/-- A member of an object.  Without flags `json_loads` refuses a text with a
NUL in it, and an integer that does not fit `json_int_t`. -/
inductive JsonValue
  | string (text : CString)
  | integer (value : Int64)
  | other
  deriving DecidableEq

/-- The root that `json_loads` returns: an object, or an array, which has no
members to ask for. -/
structure Json where
  members : List (CString × JsonValue)
  deriving DecidableEq

/-- `json_object_get`. -/
def jsonObjectGet (root : Json) (key : String) : Option JsonValue :=
  root.members.lookup (.literal key)

/-- `json_is_string`. -/
def jsonIsString : Option JsonValue → Bool
  | some (.string _) => true
  | _ => false

/-- `json_is_integer`. -/
def jsonIsInteger : Option JsonValue → Bool
  | some (.integer _) => true
  | _ => false

/-- `json_string_value`, asked for strings only. -/
def jsonStringValue : Option JsonValue → CString
  | some (.string text) => text
  | _ => .empty

/-- `json_integer_value`. -/
def jsonIntegerValue : Option JsonValue → Int64
  | some (.integer value) => value
  | _ => 0

/-! ## libteec -/

def teecNone : UInt32 := 0
def teecValueInput : UInt32 := 1
def teecValueOutput : UInt32 := 2
def teecMemrefTempInput : UInt32 := 5
def teecMemrefTempOutput : UInt32 := 6

/-- `TEEC_PARAM_TYPES`. -/
def teecParamTypes (t0 t1 t2 t3 : UInt32) : UInt32 :=
  t0 ||| (t1 <<< 4) ||| (t2 <<< 8) ||| (t3 <<< 12)

/-- `TEEC_Operation`. -/
structure TeecOperation where
  paramTypes : UInt32
  params : Fin 4 → Ta.TeeParam

/-- The arguments of `TEEC_InvokeCommand`. -/
structure Invocation where
  cmdId : UInt32
  operation : TeecOperation

/-- What arrives of a parameter.  The bytes behind a memory reference are those
of the secure world. -/
def share (behind : List UInt8) : Ta.TeeParam → Ta.TeeParam
  | .memref memory size => .memref (memory.take size ++ behind) size
  | param => param

/-- What comes back of a parameter. -/
def unshare : Ta.TeeParam → Ta.TeeParam → Ta.TeeParam
  | .memref shared _, .memref memory size =>
      .memref (shared.take size ++ memory.drop size) size
  | returned, _ => returned

/-- The command that the trusted application is asked for. -/
def Invocation.call (invocation : Invocation) (behind : Fin 4 → List UInt8)
    (outcomes : Ta.CallOutcomes) : Ta.Call where
  cmdId := invocation.cmdId
  paramTypes := invocation.operation.paramTypes
  params := .ofTee fun index => share (behind index) (invocation.operation.params index)
  outcomes := outcomes

/-- The operation after a successful command. -/
def Invocation.returned (invocation : Invocation) (behind : Fin 4 → List UInt8) (stack : Region)
    (output : Ta.Output) : TeecOperation where
  paramTypes := invocation.operation.paramTypes
  params := fun index =>
    unshare
      (output.leave stack (fun index => share (behind index) (invocation.operation.params index))
        index)
      (invocation.operation.params index)

end Host
end TrustChain
