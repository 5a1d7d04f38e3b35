import Simutgw.TgwStringUtil

/-! Members of a parsed JSON document, read as texts and as numbers. The readers differ in
what they make of a member that is not there. -/

namespace Simutgw
open TgwStringUtil

/-- A member's value, as far as the readers tell values apart. A text goes up to its first
zero byte; an array is what the library writes of it. -/
inductive JsonValue where
  | text (value : String)
  | integer (value : Int64)
  | array (written : String)
  | other
  deriving DecidableEq

/-- What the library makes of a message. Of several members under one name the first is found. -/
inductive Document where
  | parseError
  | null
  | object (jsonValue : List (String × JsonValue))
  | other

/-- Where a call ends before its end: with a return code, or in a library call outside its
contract. -/
inductive Stop where
  | code (value : Int)
  | undefined
  deriving DecidableEq

namespace RapidJsonHelper

/-- A member that is not there leaves the caller's text as it was. -/
def getStringFromJsonValue (jsonValue : List (String × JsonValue)) (strKey out_strValue : String) :
    Except Stop (Int × String) :=
  match jsonValue.lookup strKey with
  | none => .ok (1, out_strValue)
  | some (.array written) => .ok (0, written)
  | some (.text value) => .ok (0, value)
  | some _ => .error .undefined

/-- A member that is not there is reported with the text of the whole object, which has none. -/
def getUINT64MoneyFromJsonValue (jsonValue : List (String × JsonValue)) (strKey : String) (out_ui64Value : UInt64) :
    Except Stop (Int × UInt64) :=
  match jsonValue.lookup strKey with
  | some (.text strValue) =>
    match string2UInt64MoneyInLiStrtoui64 strValue 0 with
    | (0, ui64Money) => .ok (0, ui64Money)
    | _ => .ok (-2, out_ui64Value)
  | _ => .error .undefined

/-- A negative number is read through the accessor of the unsigned ones. -/
def getUINT64FromJsonValue (jsonValue : List (String × JsonValue)) (strKey : String) (out_ui64Value : UInt64) :
    Except Stop (Int × UInt64) :=
  match jsonValue.lookup strKey with
  | none => .error .undefined
  | some (.text strValue) => .ok (0, string2UInt64 strValue)
  | some (.integer value) => if 0 ≤ value then .ok (0, value.toUInt64) else .error .undefined
  | some _ => .ok (-1, out_ui64Value)

end RapidJsonHelper
end Simutgw
