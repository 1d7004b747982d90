import UtilityClasses.Json.Value
import UtilityClasses.Decimal.Shortest

/-!
Writing loose values as JSON text, on one line without blanks (`compact`) or over several lines with
an indentation of two spaces (`pretty`).

Inside a string only the quote, the backslash and the characters below the blank are escaped.
-/

namespace UtilityClasses.Json

open UtilityClasses.Decimal (scientific)

def hexDigit (value : Nat) : Char := Nat.digitChar value

def escapeChar (char : Char) : List Char :=
  if char = '"' then ['\\', '"']
  else if char = '\\' then ['\\', '\\']
  else if char = '\n' then ['\\', 'n']
  else if char = '\r' then ['\\', 'r']
  else if char = '\t' then ['\\', 't']
  else if char.toNat = 8 then ['\\', 'b']
  else if char.toNat = 12 then ['\\', 'f']
  else if char.toNat < 32 then
    ['\\', 'u', '0', '0', hexDigit (char.toNat / 16), hexDigit (char.toNat % 16)]
  else [char]

def quote (text : String) : String :=
  "\"" ++ String.ofList (text.toList.flatMap escapeChar) ++ "\""

def Number.render : Number → String
  | .natural value => toString value
  | .negative absolute => "-" ++ toString absolute
  | .double value => scientific value

mutual

def Value.compact : Value → String
  | .null => "null"
  | .boolean true => "true"
  | .boolean false => "false"
  | .number value => value.render
  | .text value => quote value
  | .list items => "[" ++ ",".intercalate (compactItems items) ++ "]"
  | .object fields => "\x7b" ++ ",".intercalate (compactFields fields) ++ "\x7d"

def compactItems : List Value → List String
  | [] => []
  | item :: rest => item.compact :: compactItems rest

def compactFields : List (String × Value) → List String
  | [] => []
  | (key, value) :: rest => (quote key ++ ":" ++ value.compact) :: compactFields rest

end

def indentation (depth : Nat) : String := String.ofList (List.replicate (2 * depth) ' ')

/-- Entries one to a line between brackets; nothing between them when there are no entries. -/
def block (depth : Nat) (opening closing : String) (entries : List String) : String :=
  if entries.isEmpty then opening ++ closing
  else
    opening ++ "\n" ++
      ",\n".intercalate (entries.map fun entry => indentation (depth + 1) ++ entry) ++
      "\n" ++ indentation depth ++ closing

mutual

def Value.prettyAt (depth : Nat) : Value → String
  | .null => "null"
  | .boolean true => "true"
  | .boolean false => "false"
  | .number value => value.render
  | .text value => quote value
  | .list items => block depth "[" "]" (prettyItems (depth + 1) items)
  | .object fields => block depth "\x7b" "\x7d" (prettyFields (depth + 1) fields)

def prettyItems (depth : Nat) : List Value → List String
  | [] => []
  | item :: rest => item.prettyAt depth :: prettyItems depth rest

def prettyFields (depth : Nat) : List (String × Value) → List String
  | [] => []
  | (key, value) :: rest =>
    (quote key ++ ": " ++ value.prettyAt depth) :: prettyFields depth rest

end

def Value.pretty (value : Value) : String := value.prettyAt 0

end UtilityClasses.Json
