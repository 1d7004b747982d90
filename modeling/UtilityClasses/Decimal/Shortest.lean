import UtilityClasses.Decimal.Double

/-!
The shortest decimal that reads back as a given double.

For one digit, two digits and so on, the two decimals of that many digits around the value are
tried; the first number of digits with a decimal that rounds to the value wins, and of two such
decimals the nearer one. Two layouts write these digits: `positional`, which never uses an exponent,
and `scientific`, which writes small and large numbers with one.
-/

namespace UtilityClasses.Decimal

/-- A positive decimal number `digits * 10 ^ exponent`. -/
structure Scaled where
  digits : Nat
  exponent : Int
  deriving DecidableEq, Repr

def Scaled.ratio (decimal : Scaled) : Nat × Nat :=
  match decimal.exponent with
  | .ofNat power => (decimal.digits * Nat.pow 10 power, 1)
  | .negSucc power => (decimal.digits, Nat.pow 10 (power + 1))

/-- The quotient rounded down on the grid of multiples of `10 ^ exponent`. -/
def floorOnGrid (numerator denominator : Nat) (exponent : Int) : Nat :=
  match exponent with
  | .ofNat power => numerator / (denominator * Nat.pow 10 power)
  | .negSucc power => numerator * Nat.pow 10 (power + 1) / denominator

/-- The number of digits before the decimal point of a positive quotient, negative or zero when
the quotient is below one and begins with zeros. -/
def decimalPoint (numerator denominator : Nat) : Int :=
  if denominator ≤ numerator then ((Nat.toDigits 10 (numerator / denominator)).length : Int)
  else
    let guess : Nat := (Nat.toDigits 10 (denominator / numerator)).length
    if denominator ≤ numerator * Nat.pow 10 (guess - 1) then 2 - (guess : Int)
    else 1 - (guess : Int)

/-- Twice the distance from a decimal to a quotient, over the product of the denominators. -/
def Scaled.distance (decimal : Scaled) (numerator denominator : Nat) : Nat :=
  let ratio := decimal.ratio
  (ratio.1 * denominator - numerator * ratio.2) + (numerator * ratio.2 - ratio.1 * denominator)

/-- The decimal with the given exponent that reads back as the magnitude, if there is one. -/
def readsBackAt (magnitude : Magnitude) (exponent : Int) : Option Scaled :=
  let (numerator, denominator) := magnitude.ratio
  let below : Scaled := ⟨floorOnGrid numerator denominator exponent, exponent⟩
  let above : Scaled := ⟨below.digits + 1, exponent⟩
  let fits (decimal : Scaled) : Bool :=
    roundRatio decimal.ratio.1 decimal.ratio.2 == magnitude
  match fits below, fits above with
  | true, true =>
    if above.distance numerator denominator < below.distance numerator denominator then some above
    else some below
  | true, false => some below
  | false, true => some above
  | false, false => none

/-- The decimal with the fewest digits that reads back as a positive finite magnitude. -/
def shortest (magnitude : Magnitude) : Scaled :=
  let (numerator, denominator) := magnitude.ratio
  let point := decimalPoint numerator denominator
  let counts := (List.range 17).map fun (count : Nat) => point - ((count : Int) + 1)
  (counts.findSome? (readsBackAt magnitude)).getD ⟨numerator, 0⟩

def Scaled.dropZeros (decimal : Scaled) : Nat → Scaled
  | 0 => decimal
  | fuel + 1 =>
    if decimal.digits ≠ 0 && decimal.digits % 10 = 0 then
      Scaled.dropZeros ⟨decimal.digits / 10, decimal.exponent + 1⟩ fuel
    else decimal

def zeros (count : Nat) : String := String.ofList (List.replicate count '0')

/-- Digits with a decimal point after the first `point` of them, padded with zeros as needed. The
part behind the point is left out when it is empty. -/
def placePoint (digits : List Char) (point : Int) : String :=
  if point ≤ 0 then "0." ++ zeros (-point).toNat ++ String.ofList digits
  else if (digits.length : Int) ≤ point then
    String.ofList digits ++ zeros (point.toNat - digits.length)
  else String.ofList (digits.take point.toNat) ++ "." ++ String.ofList (digits.drop point.toNat)

/-- The digits of a positive finite magnitude and the place of the decimal point among them. -/
def shortestDigits (magnitude : Magnitude) : List Char × Int :=
  let decimal := (shortest magnitude).dropZeros 400
  let digits := Nat.toDigits 10 decimal.digits
  (digits, (digits.length : Int) + decimal.exponent)

def sign (value : Double) : String := if value.negative then "-" else ""

/-- Without an exponent, and without a point when the number is whole. -/
def positional (value : Double) : String :=
  match value.magnitude with
  | .infinite => sign value ++ "inf"
  | magnitude@(.finite ..) =>
    if magnitude.isZero then sign value ++ "0"
    else
      let (digits, point) := shortestDigits magnitude
      sign value ++ placePoint digits point

/-- With a point always, unless the point falls more than four places before the first digit or
behind the sixteenth; then one digit before the point and an exponent with its sign. -/
def scientific (value : Double) : String :=
  match value.magnitude with
  | .infinite => sign value ++ "inf"
  | magnitude@(.finite ..) =>
    if magnitude.isZero then sign value ++ "0.0"
    else
      let (digits, point) := shortestDigits magnitude
      let body :=
        if -5 < point && point ≤ 16 then
          if (digits.length : Int) ≤ point then placePoint digits point ++ ".0"
          else placePoint digits point
        else
          let exponent := (if 0 < point then "e+" else "e") ++ toString (point - 1)
          match digits with
          | [] => "0.0"
          | [digit] => String.ofList [digit] ++ exponent
          | digit :: rest => String.ofList (digit :: '.' :: rest) ++ exponent
      sign value ++ body

end UtilityClasses.Decimal
