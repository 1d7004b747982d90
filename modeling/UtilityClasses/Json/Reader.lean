import UtilityClasses.Json.Cursor

/-!
Reading JSON text as a loose value.

Lists and objects nest at most 127 deep. `listOf` and `objectOf` read the entries of a list and of an
object with a given reader for the entries, so that typed readers share the rules for commas and
ends.
-/

namespace UtilityClasses.Json

/-- Lists and objects may nest one less deep than this. -/
def nestingLimit : Nat := 128

/-- Whether another item follows in a list. `first` says that none has been read. -/
def hasItem (first : Bool) : Reader Bool := do
  match ← peekPastBlanks with
  | none => failAtNext .eofInList
  | some ']' => return false
  | some char =>
    if first then return true
    else if char = ',' then
      advance
      match ← peekPastBlanks with
      | some ']' => failAtNext .trailingComma
      | some _ => return true
      | none => failAtNext .eofInValue
    else failAtNext .expectedListCommaOrEnd

def hasKey (first : Bool) : Reader Bool := do
  match ← peekPastBlanks with
  | none => failAtNext .eofInObject
  | some '\x7d' => return false
  | some char =>
    if first then
      if char = '"' then return true else failAtNext .keyNotString
    else if char = ',' then
      advance
      match ← peekPastBlanks with
      | some '"' => return true
      | some '\x7d' => failAtNext .trailingComma
      | some _ => failAtNext .keyNotString
      | none => failAtNext .eofInValue
    else failAtNext .expectedObjectCommaOrEnd

def colon : Reader Unit := do
  match ← peekPastBlanks with
  | some ':' => advance
  | some _ => failAtNext .expectedColon
  | none => failAtNext .eofInObject

/-- The closing bracket of a list whose reader has taken all the items it wants. -/
def endList : Reader Unit := do
  match ← peekPastBlanks with
  | some ']' => advance
  | some ',' =>
    advance
    match ← peekPastBlanks with
    | some ']' => failAtNext .trailingComma
    | _ => failAtNext .trailingCharacters
  | some _ => failAtNext .trailingCharacters
  | none => failAtNext .eofInList

/-- The closing brace of an object whose reader has taken all the fields it wants. -/
def endObject : Reader Unit := do
  match ← peekPastBlanks with
  | some '\x7d' => advance
  | some ',' => failAtNext .trailingComma
  | some _ => failAtNext .trailingCharacters
  | none => failAtNext .eofInObject

def itemsOf {α : Type} (item : Reader α) : Nat → Bool → List α → Reader (List α)
  | 0, _, _ => failHere .eofInList
  | fuel + 1, first, read => do
    if ← hasItem first then
      let value ← item
      itemsOf item fuel false (value :: read)
    else return read.reverse

def listOf {α : Type} (item : Reader α) : Reader (List α) := do
  advance
  let items ← itemsOf item ((← get).rest.length + 1) true []
  endList
  return items

def fieldsOf (value : Reader Value) : Nat → Bool → Fields → Reader Fields
  | 0, _, _ => failHere .eofInObject
  | fuel + 1, first, read => do
    if ← hasKey first then
      advance
      let key ← readString
      colon
      let entry ← value
      fieldsOf value fuel false (setField read key entry)
    else return read

def objectOf (value : Reader Value) : Reader Fields := do
  advance
  let fields ← fieldsOf value ((← get).rest.length + 1) true []
  endObject
  return fields

/-- A value with room for `depth` levels of lists and objects, one of which is never used. -/
def readValue : Nat → Reader Value
  | 0 => failAtNext .nestedTooDeeply
  | depth + 1 => do
    match ← peekPastBlanks with
    | none => failAtNext .eofInValue
    | some 'n' =>
      advance
      keyword ['u', 'l', 'l']
      return .null
    | some 't' =>
      advance
      keyword ['r', 'u', 'e']
      return .boolean true
    | some 'f' =>
      advance
      keyword ['a', 'l', 's', 'e']
      return .boolean false
    | some '-' =>
      advance
      return .number (← readNumber true)
    | some '"' =>
      advance
      return .text (← readString)
    | some '[' =>
      if depth = 0 then failAtNext .nestedTooDeeply
      return .list (← listOf (readValue depth))
    | some '\x7b' =>
      if depth = 0 then failAtNext .nestedTooDeeply
      return .object (← objectOf (readValue depth))
    | some char =>
      if isDigit char then return .number (← readNumber false)
      else failAtNext .expectedValue

/-- Reads a whole text: only blanks may follow what is read. -/
def readAll {α : Type} (reader : Reader α) (text : String) : Except Error α :=
  let whole : Reader α := do
    let value ← reader
    match ← peekPastBlanks with
    | none => return value
    | some _ => failAtNext .trailingCharacters
  match whole.run (Cursor.ofString text) with
  | .ok value _ => .ok value
  | .error error _ => .error error

def Value.ofString (text : String) : Except Error Value := readAll (readValue nestingLimit) text

end UtilityClasses.Json
