import UtilityClasses.Config.Basic
import UtilityClasses.Json.Typed

/-!
Reading a configuration from JSON text. It is an object whose fields may be missing and whose unknown
fields are passed, or a list of the first few fields in their order. What is missing has its default.
-/

namespace UtilityClasses

open Json (Reader)

structure GivenFields where
  sourceRoot : Option String
  output : Option String
  functionName : Option String
  constName : Option String
  extensions : Option (List String)
  ignores : Option (List String)
  deriving DecidableEq, Repr, Inhabited

namespace GivenFields

def none : GivenFields := ⟨.none, .none, .none, .none, .none, .none⟩

def complete (given : GivenFields) : Config where
  sourceRoot := given.sourceRoot.getD Config.default.sourceRoot
  output := given.output.getD Config.default.output
  functionName := given.functionName.getD Config.default.functionName
  constName := given.constName.getD Config.default.constName
  extensions := given.extensions.getD Config.default.extensions
  ignores := given.ignores.getD Config.default.ignores

end GivenFields

/-- A field by its key, how to tell whether it was given, and how to read its value. -/
structure ConfigField where
  key : String
  isGiven : GivenFields → Bool
  read : GivenFields → Reader GivenFields

def ConfigField.ofText (key : String) (get : GivenFields → Option String)
    (set : GivenFields → Option String → GivenFields) : ConfigField :=
  ⟨key, fun given => (get given).isSome, fun given => do
    return set given (some (← Json.expectText))⟩

def ConfigField.ofTexts (key : String) (get : GivenFields → Option (List String))
    (set : GivenFields → Option (List String) → GivenFields) : ConfigField :=
  ⟨key, fun given => (get given).isSome, fun given => do
    return set given (some (← Json.expectTexts))⟩

def configFields : List ConfigField := [
  .ofText "sourceRoot" (·.sourceRoot) fun given value => { given with sourceRoot := value },
  .ofText "output" (·.output) fun given value => { given with output := value },
  .ofText "functionName" (·.functionName) fun given value =>
    { given with functionName := value },
  .ofText "constName" (·.constName) fun given value => { given with constName := value },
  .ofTexts "extensions" (·.extensions) fun given value => { given with extensions := value },
  .ofTexts "ignores" (·.ignores) fun given value => { given with ignores := value }]

/-- Refuses a field that was given before. The refusal is placed where the end of the object was
looked for. -/
def refuseRepeated {α : Type} (key : String) : Reader α := do
  if (← Json.peekPastBlanks) == some '\x7d' then Json.advance
  Json.failHere (.duplicateField key)

def readField (given : GivenFields) (key : String) : Reader GivenFields := do
  match configFields.find? fun field => field.key == key with
  | none =>
    Json.colon
    Json.ignoreValue
    return given
  | some field =>
    if field.isGiven given then refuseRepeated key
    else
      Json.colon
      field.read given

def readFields : Nat → Bool → GivenFields → Reader GivenFields
  | 0, _, _ => Json.failHere .eofInObject
  | fuel + 1, first, given => do
    if ← Json.hasKey first then
      Json.advance
      let key ← Json.readString
      readFields fuel false (← readField given key)
    else return given

/-- The given fields in their order; where the list ends early the others are missing. -/
def readItems : Bool → List ConfigField → GivenFields → Reader GivenFields
  | _, [], given => return given
  | first, field :: rest, given => do
    if ← Json.hasItem first then readItems false rest (← field.read given) else return given

def readConfig : Reader Config := do
  match ← Json.peekPastBlanks with
  | none => Json.failAtNext .eofInValue
  | some '\x7b' =>
    Json.advance
    let given ← readFields ((← get).rest.length + 1) true .none
    Json.endObject
    return given.complete
  | some '[' =>
    Json.advance
    let given ← readItems true configFields .none
    Json.endList
    return given.complete
  | some _ => Json.refuseType "struct Config"

def Config.ofString (text : String) : Except Json.Error Config := Json.readAll readConfig text

end UtilityClasses
