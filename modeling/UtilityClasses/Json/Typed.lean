import UtilityClasses.Decimal.Shortest
import UtilityClasses.Json.Printer
import UtilityClasses.Json.Reader
import UtilityClasses.Text.Quoted

/-!
Reading JSON text of an expected type. A value of another type is refused behind its text, or before
its bracket if it is a list or an object; a value of no interest is passed under looser rules, which
neither check the range of numbers nor the pairing of surrogates.
-/

namespace UtilityClasses.Json

def Number.describe : Number → String
  | .double value => "floating point `" ++ Decimal.scientific value ++ "`"
  | number => "integer `" ++ number.render ++ "`"

def wrongType {α : Type} (found expected : String) : Reader α :=
  failHere (.wrongType found expected)

def refuseType {α : Type} (expected : String) : Reader α := do
  match ← peek with
  | some 'n' =>
    advance
    keyword ['u', 'l', 'l']
    wrongType "null" expected
  | some 't' =>
    advance
    keyword ['r', 'u', 'e']
    wrongType "boolean `true`" expected
  | some 'f' =>
    advance
    keyword ['a', 'l', 's', 'e']
    wrongType "boolean `false`" expected
  | some '-' =>
    advance
    wrongType (← readNumber true).describe expected
  | some '"' =>
    advance
    wrongType ("string " ++ Text.quoteText (← readString)) expected
  | some '[' => wrongType "sequence" expected
  | some '\x7b' => wrongType "map" expected
  | some char =>
    if isDigit char then wrongType (← readNumber false).describe expected
    else failAtNext .expectedValue
  | none => failAtNext .eofInValue

def expectText : Reader String := do
  match ← peekPastBlanks with
  | none => failAtNext .eofInValue
  | some '"' =>
    advance
    readString
  | some _ => refuseType "a string"

def expectTexts : Reader (List String) := do
  match ← peekPastBlanks with
  | none => failAtNext .eofInValue
  | some '[' => listOf expectText
  | some _ => refuseType "a sequence"

/-- Digits of which there must be one. A missing one is refused where it should stand. -/
def skipDigits : Reader Unit := do
  let digits ← takeWhile isDigit
  if digits.isEmpty then failAtNext .invalidNumber

/-- A first digit that is refused behind its place, and the digits behind it. -/
def skipExponent : Reader Unit := do
  advance
  match ← peek with
  | some '+' => advance
  | some '-' => advance
  | _ => pure ()
  match ← next with
  | none => failHere .invalidNumber
  | some (char, place) =>
    if isDigit char then
      let _ ← takeWhile isDigit
    else throw ⟨.invalidNumber, place⟩

def skipFraction : Reader Unit := do
  advance
  skipDigits
  if isExponentMark (← peek) then skipExponent

def skipNumber : Reader Unit := do
  match ← next with
  | none => failHere .invalidNumber
  | some ('0', _) =>
    if (← peek).any isDigit then failAtNext .invalidNumber
  | some (char, place) =>
    if isDigit char then
      let _ ← takeWhile isDigit
    else throw ⟨.invalidNumber, place⟩
  if (← peek) == some '.' then skipFraction
  else if isExponentMark (← peek) then skipExponent

def skipKey : Reader Unit := do
  match ← peekPastBlanks with
  | some '"' => advance
  | some _ => failAtNext .keyNotString
  | none => failAtNext .eofInObject
  skipString
  colon

mutual

def skipValue : Nat → Reader Unit
  | 0 => failHere .eofInValue
  | fuel + 1 => do
    match ← peekPastBlanks with
    | none => failAtNext .eofInValue
    | some 'n' =>
      advance
      keyword ['u', 'l', 'l']
    | some 't' =>
      advance
      keyword ['r', 'u', 'e']
    | some 'f' =>
      advance
      keyword ['a', 'l', 's', 'e']
    | some '-' =>
      advance
      skipNumber
    | some '"' =>
      advance
      skipString
    | some '[' =>
      advance
      match ← peekPastBlanks with
      | some ']' => advance
      | some _ => skipItems fuel
      | none => failAtNext .eofInList
    | some '\x7b' =>
      advance
      match ← peekPastBlanks with
      | some '\x7d' => advance
      | some _ => skipFields fuel
      | none => failAtNext .eofInObject
    | some char => if isDigit char then skipNumber else failAtNext .expectedValue

/-- Items and the closing bracket. Behind a comma a value must follow. -/
def skipItems : Nat → Reader Unit
  | 0 => failHere .eofInList
  | fuel + 1 => do
    skipValue fuel
    match ← peekPastBlanks with
    | some ',' =>
      advance
      skipItems fuel
    | some ']' => advance
    | some _ => failAtNext .expectedListCommaOrEnd
    | none => failAtNext .eofInList

/-- Fields and the closing brace. Behind a comma a key must follow. -/
def skipFields : Nat → Reader Unit
  | 0 => failHere .eofInObject
  | fuel + 1 => do
    skipKey
    skipValue fuel
    match ← peekPastBlanks with
    | some ',' =>
      advance
      skipFields fuel
    | some '\x7d' => advance
    | some _ => failAtNext .expectedObjectCommaOrEnd
    | none => failAtNext .eofInObject

end

def ignoreValue : Reader Unit := do
  skipValue ((← get).rest.length + 1)

end UtilityClasses.Json
