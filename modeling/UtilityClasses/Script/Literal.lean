import UtilityClasses.Decimal.Double
import UtilityClasses.Script.Error
import UtilityClasses.Text.Letter

/-!
Reading the inside of literals: escapes, quoted texts, template text, numbers, words and regular
expressions.

Every reader takes the text from a place on and returns what it read, or why it cannot, with the text
that is left. Texts are collected as code points, among which halves of surrogate pairs may occur
until `joinSurrogates` puts the pairs together.
-/

namespace UtilityClasses.Script

open UtilityClasses.Decimal (Double Magnitude)

abbrev Found (α : Type) : Type := Except SyntaxError α × List Char

def isLineEnd (char : Char) : Bool :=
  char == '\n' || char == '\r' || char.toNat == 0x2028 || char.toNat == 0x2029

def digitOf? (radix : Nat) (char : Char) : Option Nat :=
  let code := char.toNat
  let value :=
    if 48 ≤ code ∧ code ≤ 57 then code - 48
    else if 97 ≤ code ∧ code ≤ 122 then code - 87
    else if 65 ≤ code ∧ code ≤ 90 then code - 55
    else 36
  if value < radix then some value else none

def isDigitOf (radix : Nat) (char : Char) : Bool := (digitOf? radix char).isSome

def valueOf (radix : Nat) (digits : List Char) : Nat :=
  digits.foldl (fun total char => total * radix + (digitOf? radix char).getD 0) 0

def isDigitOrSeparator (radix : Nat) (char : Char) : Bool := isDigitOf radix char || char == '_'

/-- The digits a text begins with, without separators, and what follows them. -/
def takeDigits (radix : Nat) (text : List Char) : List Char × List Char :=
  ((text.takeWhile (isDigitOrSeparator radix)).filter (· != '_'),
    text.dropWhile (isDigitOrSeparator radix))

/-- At most `count` digits, between which separators may stand, and what follows the last of them. -/
def takeDigitsUpTo (radix : Nat) : Nat → List Char → List Char × List Char
  | 0, text => ([], text)
  | _, [] => ([], [])
  | count + 1, char :: rest =>
    if char = '_' then takeDigitsUpTo radix (count + 1) rest
    else if isDigitOf radix char then
      let (digits, after) := takeDigitsUpTo radix count rest
      (char :: digits, after)
    else ([], char :: rest)

def isLeading (unit : Nat) : Bool := 0xD800 ≤ unit && unit ≤ 0xDBFF

def isTrailing (unit : Nat) : Bool := 0xDC00 ≤ unit && unit ≤ 0xDFFF

/-- The characters that code points spell, or none when half of a surrogate pair stands alone. -/
def joinSurrogates : List Nat → Option (List Char)
  | [] => some []
  | [unit] => if isLeading unit || isTrailing unit then none else some [Char.ofNat unit]
  | unit :: next :: rest =>
    if isLeading unit && isTrailing next then
      (joinSurrogates rest).map
        (Char.ofNat (0x10000 + (unit - 0xD800) * 0x400 + (next - 0xDC00)) :: ·)
    else if isLeading unit || isTrailing unit then none
    else (joinSurrogates (next :: rest)).map (Char.ofNat unit :: ·)

def bracedCode (text : List Char) : Found Nat :=
  let (digits, after) := takeDigits 16 text
  let value := valueOf 16 digits
  if digits.isEmpty then (.error (.badEscape "1-6 hex characters"), after)
  else if 0x100000000 ≤ value then (.error .invalidUnicodeEscape, after)
  else if 0x10FFFF < value then
    (.error (.badEscape "1-6 hex characters in the range 0 to 10FFFF."), after)
  else match after with
    | '\x7d' :: rest => (.ok value, rest)
    | _ => (.error .invalidUnicodeEscape, after)

def fourDigitCode (text : List Char) : Found Nat :=
  let (digits, after) := takeDigitsUpTo 16 4 text
  if digits.length = 4 then (.ok (valueOf 16 digits), after)
  else (.error (.badEscape "4 hex characters"), after)

/-- A unicode escape behind its `\u`. Behind the first half of a surrogate pair a second escape of
four digits is part of it. -/
def unicodeEscape (text : List Char) : Found (List Nat) :=
  match text with
  | '\x7b' :: rest =>
    let (code, after) := bracedCode rest
    (code.map fun code => [code], after)
  | _ =>
    match fourDigitCode text with
    | (.error cause, after) => (.error cause, after)
    | (.ok unit, '\\' :: 'u' :: rest) =>
      if isLeading unit then
        let (next, after) := fourDigitCode rest
        (next.map fun next => [unit, next], after)
      else (.ok [unit], '\\' :: 'u' :: rest)
    | (.ok unit, after) => (.ok [unit], after)

/-- The octal digits of an escape: as many of at most three as stay below 256. -/
def octalDigits (text : List Char) : List Char :=
  let digits := (text.take 3).takeWhile (isDigitOf 8)
  if valueOf 8 digits < 256 then digits else digits.take 2

/-- An escape behind its backslash. A backslash before a line end stands for nothing. -/
def readEscape (inTemplate : Bool) (text : List Char) : Found (List Nat) :=
  match text with
  | [] => (.error .invalidStringEscape, [])
  | 'n' :: rest => (.ok [10], rest)
  | 't' :: rest => (.ok [9], rest)
  | 'r' :: rest => (.ok [13], rest)
  | 'b' :: rest => (.ok [8], rest)
  | 'f' :: rest => (.ok [12], rest)
  | 'v' :: rest => (.ok [11], rest)
  | '\r' :: '\n' :: rest => (.ok [], rest)
  | 'x' :: rest =>
    let (digits, after) := takeDigitsUpTo 16 2 rest
    if digits.length = 2 then (.ok [valueOf 16 digits], after)
    else (.error (.badEscape "2 hex characters"), after)
  | 'u' :: rest => unicodeEscape rest
  | char :: rest =>
    if isLineEnd char then (.ok [], rest)
    else if isDigitOf 8 char then
      let digits := octalDigits text
      if char = '0' && digits.length = 1 then (.ok [0], rest)
      else if inTemplate then (.error .legacyOctalEscape, rest)
      else (.ok [valueOf 8 digits], text.drop digits.length)
    else (.ok [char.toNat], rest)

/-- A quoted text behind its opening quote, where `read` is all that was read and `recent` what was
read since the last escape, last first. A line end or the end of the script closes the text too; then
it spells what stands behind its last escape. -/
def readQuoted (quote : Char) : Nat → List Nat → List Nat → List Char → Found (List Nat)
  | 0, _, recent, text => (.ok recent.reverse, text)
  | fuel + 1, read, recent, text =>
    match text with
    | [] => (.ok recent.reverse, [])
    | '\\' :: rest =>
      match readEscape false rest with
      | (.ok units, after) => readQuoted quote fuel (units.reverse ++ read) [] after
      | (.error cause, after) => (.error cause, after)
    | char :: rest =>
      if char = quote then (.ok read.reverse, rest)
      else if char = '\n' || char = '\r' then (.ok recent.reverse, text)
      else readQuoted quote fuel (char.toNat :: read) (char.toNat :: recent) rest

/-- What a stretch of template text spells, or what is wrong with the last of its wrong escapes. -/
inductive Cooked where
  | units (units : List Nat)
  | invalid (cause : SyntaxError)
  deriving DecidableEq, Repr, Inhabited

/-- A stretch of template text: what it spells and whether the template ends behind it. -/
structure TemplatePart where
  cooked : Cooked
  ends : Bool
  deriving DecidableEq, Repr, Inhabited

/-- Template text up to the closing backquote or the next interpolation. Line ends spell a line feed
whichever they are. -/
def readTemplate : Nat → List Nat → Option SyntaxError → List Char → Found TemplatePart
  | 0, _, _, text => (.error .unterminatedTemplate, text)
  | fuel + 1, read, fault, text =>
    let cooked := match fault with
      | some cause => Cooked.invalid cause
      | none => .units read.reverse
    match text with
    | [] => (.error .unterminatedTemplate, [])
    | '\x60' :: rest => (.ok ⟨cooked, true⟩, rest)
    | '$' :: '\x7b' :: rest => (.ok ⟨cooked, false⟩, rest)
    | '\\' :: rest =>
      match readEscape true rest with
      | (.ok units, after) => readTemplate fuel (units.reverse ++ read) fault after
      | (.error cause, after) => readTemplate fuel read (some cause) after
    | '\r' :: '\n' :: rest => readTemplate fuel (10 :: read) fault rest
    | '\r' :: rest => readTemplate fuel (10 :: read) fault rest
    | char :: rest => readTemplate fuel (char.toNat :: read) fault rest

/-- The characters that an escape contributes to a name. Half of a surrogate pair is spelled out. -/
def spellInName (units : List Nat) : List Char :=
  match joinSurrogates units with
  | some chars => chars
  | none => units.flatMap fun unit =>
      if isLeading unit || isTrailing unit then
        ['\\', 'u'] ++ (Nat.toDigits 16 unit).map Char.toUpper
      else [Char.ofNat unit]

/-- A word and whether an escape occurs in it. By an escape any character may enter. -/
def readWord : Nat → List Char → Bool → List Char → Found (List Char × Bool)
  | 0, read, escaped, text => (.ok (read.reverse, escaped), text)
  | fuel + 1, read, escaped, text =>
    match text with
    | '\\' :: 'u' :: rest =>
      match unicodeEscape rest with
      | (.ok units, after) => readWord fuel ((spellInName units).reverse ++ read) true after
      | (.error cause, after) => (.error cause, after)
    | '\\' :: rest => (.error .unicodeEscapeExpected, rest)
    | char :: rest =>
      if Text.isIdentifierPart char then readWord fuel (char :: read) escaped rest
      else (.ok (read.reverse, escaped), text)
    | [] => (.ok (read.reverse, escaped), [])

inductive Numeral where
  | number (value : Double)
  | bigint
  deriving DecidableEq, Repr, Inhabited

/-- A word must not follow a number at once. -/
def finishNumeral (value : Double) (text : List Char) : Found Numeral :=
  match text with
  | char :: _ =>
    if Text.isIdentifierStart char then (.error .identifierAfterNumber, text)
    else (.ok (.number value), text)
  | [] => (.ok (.number value), [])

def ofDigitsIn (radix : Nat) (digits : List Char) : Double :=
  Double.ofDigits radix (digits.map fun char => (digitOf? radix char).getD 0)

def readRadix (radix : Nat) (text : List Char) : Found Numeral :=
  let (digits, rest) := takeDigits radix text
  if digits.isEmpty then (.error (.digitExpected radix), rest)
  else match rest with
    | 'n' :: after => (.ok .bigint, after)
    | _ => finishNumeral (ofDigitsIn radix digits) rest

def readExponent (digits : Nat) (fraction : Nat) (text : List Char) : Found Numeral :=
  let value (exponent : Int) : Double := ⟨false, Magnitude.ofDecimal digits (exponent - fraction)⟩
  let signed (negative : Bool) (rest : List Char) : Found Numeral :=
    let (exponent, after) := takeDigits 10 rest
    if exponent.isEmpty then (.error (.digitExpected 10), after)
    else
      let size : Int := valueOf 10 exponent
      finishNumeral (value (if negative then -size else size)) after
  match text with
  | mark :: rest =>
    if mark = 'e' || mark = 'E' then
      match rest with
      | [] => (.error .exponentExpected, [])
      | '+' :: after => signed false after
      | '-' :: after => signed true after
      | _ => signed false rest
    else finishNumeral (value 0) text
  | [] => finishNumeral (value 0) []

/-- A decimal number. A whole one of several characters that begins with a zero is octal when its
digits allow it, and it is no integer of arbitrary size. -/
def readDecimal (text : List Char) : Found Numeral :=
  let (whole, rest) := takeDigits 10 text
  let isLong := 1 < (text.takeWhile (isDigitOrSeparator 10)).length
  let isLegacy := text.head? = some '0' && isLong
  if isLegacy && whole.all (isDigitOf 8) then finishNumeral (ofDigitsIn 8 whole) rest
  else match rest with
    | '.' :: after =>
      let (fraction, rest) := takeDigits 10 after
      readExponent (valueOf 10 (whole ++ fraction)) fraction.length rest
    | 'n' :: after =>
      if isLegacy then (.error .identifierAfterNumber, rest) else (.ok .bigint, after)
    | _ => readExponent (valueOf 10 whole) 0 rest

def readNumeral (text : List Char) : Found Numeral :=
  match text with
  | '0' :: mark :: rest =>
    if mark = 'x' || mark = 'X' then readRadix 16 rest
    else if mark = 'o' || mark = 'O' then readRadix 8 rest
    else if mark = 'b' || mark = 'B' then readRadix 2 rest
    else readDecimal text
  | _ => readDecimal text

/-- The flags behind a regular expression: a word, if there is one. -/
def readFlags (text : List Char) : Found Unit :=
  if text.head?.any Text.isIdentifierStart then
    let (flags, rest) := readWord (text.length + 1) [] false text
    (flags.map fun _ => (), rest)
  else (.ok (), text)

/-- The body of a regular expression behind its first slash, and its flags. A slash in a class of
characters does not end it. -/
def readRegex (escaped inClass : Bool) : List Char → Found Unit
  | [] => (.error .unterminatedRegex, [])
  | char :: rest =>
    if isLineEnd char then (.error .unterminatedRegex, char :: rest)
    else if escaped then readRegex false inClass rest
    else if char = '/' && !inClass then readFlags rest
    else if char = '[' then readRegex false true rest
    else if char = ']' then readRegex false false rest
    else readRegex (char = '\\') inClass rest

end UtilityClasses.Script
