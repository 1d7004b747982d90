import UtilityClasses.Json.Error
import UtilityClasses.Json.Value
import UtilityClasses.Text.Utf8

/-!
The tokens of JSON text: blanks, keywords, strings and numbers, read from a cursor that knows the
line and the column it has reached.

An error is placed where the cursor stands (`failHere`) or one byte further (`failAtNext`), as the
rule that refuses the text says.
-/

namespace UtilityClasses.Json

open UtilityClasses.Decimal (Double Magnitude)

structure Cursor where
  rest : List Char
  position : Position
  deriving Repr

def Cursor.ofString (text : String) : Cursor := ⟨text.toList, ⟨1, 0⟩⟩

abbrev Reader : Type → Type := EStateM Error Cursor

def failHere {α : Type} (cause : Cause) : Reader α := do
  throw ⟨cause, (← get).position⟩

def failAtNext {α : Type} (cause : Cause) : Reader α := do
  let cursor ← get
  throw ⟨cause, cursor.position.afterBytes 1 cursor.rest⟩

def peek : Reader (Option Char) := do return (← get).rest.head?

/-- Moves past one character; at the end of the text it stays. -/
def advance : Reader Unit :=
  modify fun cursor =>
    match cursor.rest with
    | [] => cursor
    | char :: rest => ⟨rest, cursor.position.after char⟩

/-- Takes one character. A refusal of it is placed one byte after its start, hence the position. -/
def next : Reader (Option (Char × Position)) := do
  let cursor ← get
  match cursor.rest with
  | [] => return none
  | char :: _ =>
    advance
    return some (char, cursor.position.afterBytes 1 cursor.rest)

def isJsonBlank (char : Char) : Bool :=
  char == ' ' || char == '\n' || char == '\t' || char == '\r'

def skipOver (taken : List Char) (rest : List Char) : Reader Unit :=
  modify fun cursor => ⟨rest, taken.foldl Position.after cursor.position⟩

def takeWhile (accepted : Char → Bool) : Reader (List Char) := do
  let text := (← get).rest
  let taken := text.takeWhile accepted
  skipOver taken (text.dropWhile accepted)
  return taken

/-- The next character that is not blank, which stays to be read. -/
def peekPastBlanks : Reader (Option Char) := do
  let _ ← takeWhile isJsonBlank
  peek

def keyword : List Char → Reader Unit
  | [] => return ()
  | expected :: rest => do
    match ← next with
    | none => failHere .eofInValue
    | some (char, place) =>
      if char = expected then keyword rest else throw ⟨.expectedKeyword, place⟩

def hexValue (char : Char) : Option Nat :=
  let code := char.toNat
  if 48 ≤ code ∧ code ≤ 57 then some (code - 48)
  else if 97 ≤ code ∧ code ≤ 102 then some (code - 87)
  else if 65 ≤ code ∧ code ≤ 70 then some (code - 55)
  else none

/-- Four hexadecimal digits. Fewer than four bytes before the end are refused at the end, anything
else that is not a digit four bytes further. -/
def fourHexDigits : Reader Nat := do
  let cursor ← get
  match cursor.rest.take 4 with
  | [a, b, c, d] =>
    match hexValue a, hexValue b, hexValue c, hexValue d with
    | some a, some b, some c, some d =>
      skipOver (cursor.rest.take 4) (cursor.rest.drop 4)
      return ((a * 16 + b) * 16 + c) * 16 + d
    | _, _, _, _ => throw ⟨.invalidEscape, cursor.position.afterBytes 4 cursor.rest⟩
  | short =>
    if Text.byteLength short < 4 then
      throw ⟨.eofInString, short.foldl Position.after cursor.position⟩
    else throw ⟨.invalidEscape, cursor.position.afterBytes 4 cursor.rest⟩

/-- The next character of a string that must not end here, without taking it. -/
def peekInString : Reader Char := do
  match ← peek with
  | some char => return char
  | none => failHere .eofInString

/-- One character of a pair of escapes is missing: the character that stands there is passed. -/
def refuseUnpaired {α : Type} : Reader α := do
  failAtNext .unexpectedEndOfEscape

/-- The character that `\u` and its digits stand for. A leading surrogate must be followed by the
escape of a trailing one. -/
def unicodeEscape : Reader Char := do
  let unit ← fourHexDigits
  if 0xDC00 ≤ unit && unit ≤ 0xDFFF then failHere .loneSurrogate
  else if unit < 0xD800 || 0xDBFF < unit then return Char.ofNat unit
  else
    if (← peekInString) ≠ '\\' then refuseUnpaired
    advance
    if (← peekInString) ≠ 'u' then refuseUnpaired
    advance
    let trailing ← fourHexDigits
    if trailing < 0xDC00 || 0xDFFF < trailing then failHere .loneSurrogate
    else return Char.ofNat (0x10000 + (unit - 0xD800) * 0x400 + (trailing - 0xDC00))

def simpleEscape : Char → Option Char
  | '"' => some '"'
  | '\\' => some '\\'
  | '/' => some '/'
  | 'b' => some '\x08'
  | 'f' => some '\x0c'
  | 'n' => some '\n'
  | 'r' => some '\r'
  | 't' => some '\t'
  | _ => none

/-- The text of a string whose opening quote has been read. `decode` tells what an escape `\u`
stands for, and `controlPassed` whether a control character is passed before it is refused. -/
def stringBody (decode : Reader Char) (controlPassed : Bool) :
    Nat → List Char → Reader String
  | 0, _ => failHere .eofInString
  | fuel + 1, read => do
    match ← peek with
    | none => failHere .eofInString
    | some '"' =>
      advance
      return String.ofList read.reverse
    | some '\\' =>
      advance
      match ← next with
      | none => failHere .eofInString
      | some ('u', _) => stringBody decode controlPassed fuel ((← decode) :: read)
      | some (char, place) =>
        match simpleEscape char with
        | some meant => stringBody decode controlPassed fuel (meant :: read)
        | none => throw ⟨.invalidEscape, place⟩
    | some char =>
      if char.toNat < 32 then
        if controlPassed then failAtNext .controlCharacter else failHere .controlCharacter
      else
        advance
        stringBody decode controlPassed fuel (char :: read)

def readString : Reader String := do
  stringBody unicodeEscape true ((← get).rest.length + 1) []

/-- Passes a string of no interest: surrogates need not be paired. -/
def skipString : Reader Unit := do
  let digits : Reader Char := do
    let _ ← fourHexDigits
    return ' '
  let _ ← stringBody digits false ((← get).rest.length + 1) []

def isDigit (char : Char) : Bool := char.isDigit

def digitValue (char : Char) : Nat := char.toNat - 48

def greatestNatural : Nat := Nat.pow 2 64 - 1

/-- `significand * 10 ^ exponent`, by at most one rounded multiplication or division by a power of
ten for every 308 of the exponent. `none` when the number is too large. -/
def scaleByTen : Nat → Magnitude → Int → Option Magnitude
  | 0, _, _ => some .zero
  | fuel + 1, value, exponent =>
    if exponent.natAbs ≤ 308 then
      let power := Magnitude.ofDecimal 1 exponent.natAbs
      let scaled := if 0 ≤ exponent then value.product power else value.quotient power
      if scaled = .infinite then none else some scaled
    else if value.isZero then some value
    else if 0 ≤ exponent then none
    else scaleByTen fuel (value.quotient (Magnitude.ofDecimal 1 308)) (exponent + 308)

def scaledNumber (negative : Bool) (significand : Nat) (exponent : Int) : Reader Number := do
  match scaleByTen 8 (Magnitude.ofNat significand) exponent with
  | some magnitude => return .double ⟨negative, magnitude⟩
  | none => failHere .numberOutOfRange

def clampExponent (exponent : Int) : Int := max (-2147483648) (min 2147483647 exponent)

def finishExponent (negative : Bool) (significand : Nat) (start : Int) (positive : Bool)
    (exponent : Nat) : Reader Number :=
  scaledNumber negative significand
    (clampExponent (if positive then start + exponent else start - exponent))

/-- The digits of an exponent. One above the range of 32 bits is settled at once: the number is
zero, or it is out of range. -/
def exponentDigits (negative : Bool) (significand : Nat) (start : Int) (positive : Bool) :
    Nat → Nat → Reader Number
  | 0, _ => failHere .invalidNumber
  | fuel + 1, exponent => do
    match ← peek with
    | some char =>
      if isDigit char then
        advance
        let grown := exponent * 10 + digitValue char
        if grown ≤ 2147483647 then
          exponentDigits negative significand start positive fuel grown
        else if significand ≠ 0 && positive then failHere .numberOutOfRange
        else
          let _ ← takeWhile isDigit
          return .double ⟨negative, .zero⟩
      else finishExponent negative significand start positive exponent
    | none => finishExponent negative significand start positive exponent

def readExponent (negative : Bool) (significand : Nat) (start : Int) : Reader Number := do
  advance
  let positive ← do
    match ← peek with
    | some '+' => advance; pure true
    | some '-' => advance; pure false
    | _ => pure true
  match ← next with
  | none => failHere .eofInValue
  | some (char, place) =>
    if isDigit char then
      exponentDigits negative significand start positive
        ((← get).rest.length + 1) (digitValue char)
    else throw ⟨.invalidNumber, place⟩

def isExponentMark (char : Option Char) : Bool := char == some 'e' || char == some 'E'

/-- The digits behind a decimal point. Those that no longer fit in 64 bits are passed. -/
def fractionDigits (negative : Bool) : Nat → Nat → Int → Reader Number
  | 0, _, _ => failHere .invalidNumber
  | fuel + 1, significand, exponent => do
    match ← peek with
    | some char =>
      if isDigit char then
        let grown := significand * 10 + digitValue char
        if greatestNatural < grown then
          let _ ← takeWhile isDigit
          if isExponentMark (← peek) then readExponent negative significand exponent
          else scaledNumber negative significand exponent
        else
          advance
          fractionDigits negative fuel grown (exponent - 1)
      else if isExponentMark (some char) then readExponent negative significand exponent
      else scaledNumber negative significand exponent
    | none => scaledNumber negative significand exponent

def readFraction (negative : Bool) (significand : Nat) (exponent : Int) : Reader Number := do
  advance
  match ← peek with
  | none => failAtNext .eofInValue
  | some char =>
    if isDigit char then
      fractionDigits negative ((← get).rest.length + 1) significand exponent
    else failAtNext .invalidNumber

def finishWhole (negative : Bool) (significand : Nat) : Reader Number := do
  match ← peek with
  | some '.' => readFraction negative significand 0
  | char =>
    if isExponentMark char then readExponent negative significand 0
    else if !negative then return .natural significand
    else if significand = 0 || Nat.pow 2 63 < significand then
      return .double ⟨true, Magnitude.ofNat significand⟩
    else return .negative significand

/-- A whole number of more digits than 64 bits hold: each further digit raises the exponent. -/
def finishLong (negative : Bool) (significand : Nat) (exponent : Nat) : Reader Number := do
  match ← peek with
  | some '.' => readFraction negative significand exponent
  | char =>
    if isExponentMark char then readExponent negative significand exponent
    else scaledNumber negative significand exponent

def wholeDigits (negative : Bool) : Nat → Nat → Reader Number
  | 0, _ => failHere .invalidNumber
  | fuel + 1, significand => do
    match ← peek with
    | some char =>
      if isDigit char then
        let grown := significand * 10 + digitValue char
        if greatestNatural < grown then
          let further ← takeWhile isDigit
          finishLong negative significand further.length
        else
          advance
          wholeDigits negative fuel grown
      else finishWhole negative significand
    | none => finishWhole negative significand

def readNumber (negative : Bool) : Reader Number := do
  match ← next with
  | none => failHere .eofInValue
  | some (char, place) =>
    if char = '0' then
      match ← peek with
      | some digit =>
        if isDigit digit then failAtNext .invalidNumber else finishWhole negative 0
      | none => finishWhole negative 0
    else if isDigit char then
      wholeDigits negative ((← get).rest.length + 1) (digitValue char)
    else throw ⟨.invalidNumber, place⟩

end UtilityClasses.Json
