import JdkFinder.Json.Basic

/-!
# Decoding JSON

Readers from documents to values of a type.  A record is read from an object, whose unknown members
are skipped and whose known members may each occur once, or from an array of its fields in their
order.
-/

namespace JdkFinder.Json

/-! ## §1 Single values -/

def asText? : Json → Option String
  | .string s => some s
  | _ => none

/-- A truth value. -/
def asBool? : Json → Option Bool
  | .bool b => some b
  | _ => none

/-- A 32-bit unsigned number. -/
def asWord32? : Json → Option UInt32
  | .number n => (n.toNat?.filter (· < Nat.pow 2 32)).map UInt32.ofNat
  | _ => none

/-- A 64-bit unsigned number. -/
def asWord64? : Json → Option UInt64
  | .number n => (n.toNat?.filter (· < Nat.pow 2 64)).map UInt64.ofNat
  | _ => none

variable {α : Type}

/-- A value, or `null`. -/
def asOption? (decode : Json → Option α) : Json → Option (Option α)
  | .null => some none
  | j => (decode j).map some

/-- An array of values. -/
def asList? (decode : Json → Option α) : Json → Option (List α)
  | .array items => items.mapM decode
  | _ => none

/-! ## §2 Records -/

/-- What a record holds in the place of a field. -/
inductive Slot where
  /-- The field is there. -/
  | given (j : Json)
  /-- The record is an object without the field. -/
  | missing
  /-- The record is an array that ends before the field. -/
  | cutOff

/-- The place of a field in an object, under any of its names. -/
def slotIn? (fields : List (String × Json)) (names : List String) : Option Slot :=
  match fields.filter fun field => names.contains field.1 with
  | [] => some .missing
  | [(_, j)] => some (.given j)
  | _ => none

/-- The places of the fields of a record, each field given by its names. -/
def slots? (known : List (List String)) : Json → Option (List Slot)
  | .object fields => known.mapM (slotIn? fields)
  | .array items =>
    if items.length ≤ known.length then
      some (items.map .given ++ List.replicate (known.length - items.length) .cutOff)
    else none
  | _ => none

namespace Slot

/-- A field that must be there. -/
def required? (decode : Json → Option α) : Slot → Option α
  | given j => decode j
  | _ => none

/-- A field that may be `null`, and that an object may lack. -/
def nullable? (decode : Json → Option α) : Slot → Option (Option α)
  | given j => asOption? decode j
  | missing => some none
  | cutOff => none

/-- A field with a value that stands in for it. -/
def default? (value : α) (decode : Json → Option α) : Slot → Option α
  | given j => decode j
  | _ => some value

end Slot

end JdkFinder.Json
