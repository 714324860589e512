import IdentityCrates.Lib.Cbor
import IdentityCrates.MdlVerify.Error

/-!
# Disclosed values

`value.rs`.  An element value is arbitrary CBOR, and `MdlValue` is a tree of the same shape in which
a date has a constructor of its own.
-/

namespace MdlVerify

open Cbor (Value)
open Octets Text

/-- `MdlValue`. -/
inductive MdlValue where
  | text (s : Str)
  | bytes (b : Bytes)
  | int (i : Int)
  | float (bits : UInt64)
  | bool (b : Bool)
  | null
  | date (s : Str)
  | tagged (tag : UInt64) (value : MdlValue)
  | array (items : List MdlValue)
  | map (entries : List (MdlValue × MdlValue))

/-- `TAG_TDATE`. -/
def tagTdate : UInt64 := 0

/-- `TAG_FULL_DATE`. -/
def tagFullDate : UInt64 := 1004

namespace MdlValue

mutual

/-- `TryFrom<&ciborium::Value> for MdlValue`. -/
def tryFrom : Value → Except MdlError MdlValue
  | .text s => .ok (.text s)
  | .bytes b => .ok (.bytes b)
  | .integer i => .ok (.int i)
  | .float bits => .ok (.float bits)
  | .bool b => .ok (.bool b)
  | .null => .ok .null
  | .tag tag inner =>
    match inner with
    | .text s =>
      if tag = tagTdate ∨ tag = tagFullDate then .ok (.date s)
      else .ok (.tagged tag (.text s))
    | inner => do return .tagged tag (← tryFrom inner)
  | .array items => do return .array (← tryFromItems items)
  | .map entries => do return .map (← tryFromEntries entries)
  | .other kind =>
    .error (.unreadable s!"unsupported CBOR in element value: {String.ofList kind}")

/-- The items of an array, in order, up to the first that fails. -/
def tryFromItems : List Value → Except MdlError (List MdlValue)
  | [] => .ok []
  | item :: items => do return (← tryFrom item) :: (← tryFromItems items)

/-- The entries of a map, in order, up to the first that fails. -/
def tryFromEntries : List (Value × Value) → Except MdlError (List (MdlValue × MdlValue))
  | [] => .ok []
  | (key, value) :: entries => do
    return (← tryFrom key, ← tryFrom value) :: (← tryFromEntries entries)

end

/-- `MdlValue::as_text`. -/
def asText : MdlValue → Option Str
  | text s => some s
  | _ => none

/-- `MdlValue::as_date`: not every issuer tags its dates. -/
def asDate : MdlValue → Option Str
  | date s | text s => some s
  | _ => none

/-- `MdlValue::as_bytes`. -/
def asBytes : MdlValue → Option Bytes
  | bytes b => some b
  | _ => none

/-- `MdlValue::as_int`. -/
def asInt : MdlValue → Option Int
  | int i => some i
  | _ => none

/-- `MdlValue::as_bool`. -/
def asBool : MdlValue → Option Bool
  | bool b => some b
  | _ => none

end MdlValue

end MdlVerify
