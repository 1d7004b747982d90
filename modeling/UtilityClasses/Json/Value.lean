import UtilityClasses.Decimal.Double

/-!
Loose values: trees of objects, lists, texts, numbers, booleans and nulls.

The fields of an object keep the order in which their keys first appeared. `setField` keeps the place
of a key that is already present and replaces its value, so an object built with it has no repeated
key.
-/

namespace UtilityClasses.Json

open UtilityClasses.Decimal (Double)

inductive Number where
  | natural (value : Nat)
  | negative (absolute : Nat)
  | double (value : Double)
  deriving DecidableEq, Repr, Inhabited

def Number.isZero : Number → Bool
  | .natural value => value == 0
  | .negative absolute => absolute == 0
  | .double value => value.isZero

inductive Value where
  | null
  | boolean (value : Bool)
  | number (value : Number)
  | text (value : String)
  | list (items : List Value)
  | object (fields : List (String × Value))
  deriving Repr, Inhabited

abbrev Fields : Type := List (String × Value)

def setField (fields : Fields) (key : String) (value : Value) : Fields :=
  match fields with
  | [] => [(key, value)]
  | (name, old) :: rest =>
    if name = key then (name, value) :: rest else (name, old) :: setField rest key value

/-- A value counts as true unless it is null, false, a zero or the empty text. -/
def Value.isTruthy : Value → Bool
  | .null => false
  | .boolean value => value
  | .number value => !value.isZero
  | .text value => !value.isEmpty
  | .list _ => true
  | .object _ => true

end UtilityClasses.Json
