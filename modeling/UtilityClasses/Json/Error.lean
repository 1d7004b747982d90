/-!
Why a text is refused as JSON, and where. Lines count from one; the column is the number of bytes
between the start of the line and the place of the error.
-/

namespace UtilityClasses.Json

inductive Cause where
  | eofInList
  | eofInObject
  | eofInString
  | eofInValue
  | expectedColon
  | expectedListCommaOrEnd
  | expectedObjectCommaOrEnd
  | expectedKeyword
  | expectedValue
  | invalidEscape
  | invalidNumber
  | numberOutOfRange
  | controlCharacter
  | keyNotString
  | loneSurrogate
  | trailingComma
  | trailingCharacters
  | unexpectedEndOfEscape
  | nestedTooDeeply
  | wrongType (found expected : String)
  | duplicateField (name : String)
  deriving DecidableEq, Repr

def Cause.message : Cause → String
  | .eofInList => "EOF while parsing a list"
  | .eofInObject => "EOF while parsing an object"
  | .eofInString => "EOF while parsing a string"
  | .eofInValue => "EOF while parsing a value"
  | .expectedColon => "expected `:`"
  | .expectedListCommaOrEnd => "expected `,` or `]`"
  | .expectedObjectCommaOrEnd => "expected `,` or `\x7d`"
  | .expectedKeyword => "expected ident"
  | .expectedValue => "expected value"
  | .invalidEscape => "invalid escape"
  | .invalidNumber => "invalid number"
  | .numberOutOfRange => "number out of range"
  | .controlCharacter =>
    "control character (\\u0000-\\u001F) found while parsing a string"
  | .keyNotString => "key must be a string"
  | .loneSurrogate => "lone leading surrogate in hex escape"
  | .trailingComma => "trailing comma"
  | .trailingCharacters => "trailing characters"
  | .unexpectedEndOfEscape => "unexpected end of hex escape"
  | .nestedTooDeeply => "recursion limit exceeded"
  | .wrongType found expected => "invalid type: " ++ found ++ ", expected " ++ expected
  | .duplicateField name => "duplicate field `" ++ name ++ "`"

structure Position where
  line : Nat
  column : Nat
  deriving DecidableEq, Repr

structure Error where
  cause : Cause
  position : Position
  deriving DecidableEq, Repr

def Error.message (error : Error) : String :=
  error.cause.message ++ " at line " ++ toString error.position.line ++
    " column " ++ toString error.position.column

/-- The position after the first `count` bytes of a text that begins at a position. -/
def Position.afterBytes (position : Position) : Nat → List Char → Position
  | 0, _ => position
  | _, [] => position
  | count + 1, char :: rest =>
    if char = '\n' then Position.afterBytes ⟨position.line + 1, 0⟩ count rest
    else if char.utf8Size ≤ count + 1 then
      Position.afterBytes ⟨position.line, position.column + char.utf8Size⟩
        (count + 1 - char.utf8Size) rest
    else ⟨position.line, position.column + (count + 1)⟩

def Position.after (position : Position) (char : Char) : Position :=
  if char = '\n' then ⟨position.line + 1, 0⟩
  else ⟨position.line, position.column + char.utf8Size⟩

end UtilityClasses.Json
