/-!
Binary floating point numbers of double precision, without the values that are not numbers.

A finite magnitude is `significand * 2 ^ exponent`. `roundRatio` picks the magnitude nearest to a
quotient, a tie going to the even significand, so every number has one representation and equality
is structural.
-/

namespace UtilityClasses.Decimal

inductive Magnitude where
  | finite (significand : Nat) (exponent : Int)
  | infinite
  deriving DecidableEq, Repr, Inhabited

structure Double where
  negative : Bool
  magnitude : Magnitude
  deriving DecidableEq, Repr, Inhabited

/-- Significands stay below two to this power. -/
def precision : Nat := 53

def leastExponent : Int := -1074

def greatestExponent : Int := 971

/-- The quotient of two numbers scaled by a power of two, as a numerator and a denominator. -/
def scaleRatio (numerator denominator : Nat) (exponent : Int) : Nat × Nat :=
  match exponent with
  | .ofNat shift => (numerator * Nat.pow 2 shift, denominator)
  | .negSucc shift => (numerator, denominator * Nat.pow 2 (shift + 1))

/-- The quotient rounded to a whole number, a half going to the even neighbour. -/
def roundHalfEven (numerator denominator : Nat) : Nat :=
  let quotient := numerator / denominator
  let remainder := numerator % denominator
  if 2 * remainder < denominator then quotient
  else if denominator < 2 * remainder then quotient + 1
  else quotient + quotient % 2

/-- The exponent of the greatest power of two that is not above a quotient of positive numbers. -/
def floorLog2 (numerator denominator : Nat) : Int :=
  let guess : Int := (numerator.log2 : Int) - (denominator.log2 : Int)
  let scaled := scaleRatio numerator denominator (-guess)
  if scaled.2 ≤ scaled.1 then guess else guess - 1

def roundRatio (numerator denominator : Nat) : Magnitude :=
  if numerator = 0 then .finite 0 0
  else
    let exponent := max (floorLog2 numerator denominator - (precision - 1)) leastExponent
    let scaled := scaleRatio numerator denominator (-exponent)
    let significand := roundHalfEven scaled.1 scaled.2
    let (significand, exponent) :=
      if significand = Nat.pow 2 precision then (Nat.pow 2 (precision - 1), exponent + 1)
      else (significand, exponent)
    if significand = 0 then .finite 0 0
    else if greatestExponent < exponent then .infinite
    else .finite significand exponent

namespace Magnitude

def zero : Magnitude := .finite 0 0

def isZero : Magnitude → Bool
  | .finite significand _ => significand == 0
  | .infinite => false

def ratio : Magnitude → Nat × Nat
  | .finite significand exponent => scaleRatio significand 1 exponent
  | .infinite => (1, 0)

def ofNat (value : Nat) : Magnitude := roundRatio value 1

def product (left right : Magnitude) : Magnitude :=
  match left, right with
  | .finite .., .finite .. =>
    roundRatio (left.ratio.1 * right.ratio.1) (left.ratio.2 * right.ratio.2)
  | _, _ => .infinite

def quotient (left right : Magnitude) : Magnitude :=
  match left, right with
  | .finite .., .finite .. =>
    roundRatio (left.ratio.1 * right.ratio.2) (left.ratio.2 * right.ratio.1)
  | .finite .., .infinite => zero
  | .infinite, _ => .infinite

/-- The magnitude nearest to `digits * 10 ^ exponent`. Exponents far outside the range of doubles
are settled without computing the power. -/
def ofDecimal (digits : Nat) (exponent : Int) : Magnitude :=
  if digits = 0 then zero
  else
    let size : Int := (Nat.toDigits 10 digits).length
    if 400 < size + exponent then .infinite
    else if size + exponent < -400 then zero
    else match exponent with
      | .ofNat power => roundRatio (digits * Nat.pow 10 power) 1
      | .negSucc power => roundRatio digits (Nat.pow 10 (power + 1))

end Magnitude

def Double.isZero (value : Double) : Bool := value.magnitude.isZero

/-- A number written in base `radix`, its digits given from the left. Each step is rounded. -/
def Double.ofDigits (radix : Nat) (digits : List Nat) : Double :=
  let step (total : Magnitude) (digit : Nat) : Magnitude :=
    match total with
    | .finite .. => roundRatio (total.ratio.1 * radix + digit * total.ratio.2) total.ratio.2
    | .infinite => .infinite
  ⟨false, digits.foldl step .zero⟩

end UtilityClasses.Decimal
