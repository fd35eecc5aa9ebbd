import DirectImports.Decimal.Shortest

/-!
# JSON values

A number that is written without fraction and exponent is an integer if it fits 64 bits, and a
floating point number otherwise. The fields of an object keep the order in which they were first
given.
-/

namespace DirectImports.Json

/-- A JSON value. -/
inductive Value
  | null
  | bool (value : Bool)
  | integer (value : Int)
  | float (value : Decimal.Binary64)
  | string (value : String)
  | array (items : List Value)
  | object (fields : List (String × Value))
deriving Repr, Inhabited

/-- Sets a field: a key already present keeps its place and gets the new value. -/
def putField (fields : List (String × Value)) (key : String) (value : Value) :
    List (String × Value) :=
  match fields with
  | [] => [(key, value)]
  | field :: rest =>
    if field.1 = key then (key, value) :: rest else field :: putField rest key value

/-- The value of a field of an object; any other value has no fields. -/
def Value.field? (value : Value) (key : String) : Option Value :=
  match value with
  | .object fields => fields.lookup key
  | _ => none

end DirectImports.Json
