import UtilityClasses.Script.Cursor

/-!
Names, private names and the words that modify what they stand before.
-/

namespace UtilityClasses.Script

/-- A name where any word is one, as behind a dot. -/
def anyName : Parse String := do
  match (← current).spelling? with
  | some spelling =>
    bump
    return spelling
  | none => stop .identifierExpected

def memberName : Parse String := do
  if ← sees "#" then
    let mark := (← get).rest
    bump
    if (← get).here.length ≠ mark.length then stop .blankInPrivateName
  anyName

def seesName : Parse Bool := do return (← read).isIdentifier (← current)

def peeksName : Parse Bool := do return (← read).isIdentifier (← peekToken).1

/-- A name that is bound or used as a label. Words that only strict code reserves are passed over. -/
def variableName : Parse String := do
  match ← current with
  | .keyword "await" _ =>
    let context ← read
    if !context.ambient && context.inStaticBlock then stop .identifierExpected
    else if !context.ambient && context.inAsync then stop .awaitAsName
    else anyName
  | .keyword "enum" _ | .keyword "this" _ => anyName
  | token => if token.isFreeWord then anyName else stop .identifierExpected

/-- The name of a function or class in an expression, which may be left out. -/
def optionalName : Parse Unit := do
  if ← seesName then
    let _ ← variableName

/-- Whether the token behind the next one, on the same line, can be what a modifier modifies. -/
def modifierMayStand : Parse Bool := do
  let (following, lineBreak) := ← peekToken
  return !lineBreak && (following.isPlainKey ||
    ["[", "\x7b", "*", "...", "#"].any fun spelling => following == .punctuator spelling)

def modifierWord? : Parse (Option String) := do
  match ← current with
  | .error cause => stop cause
  | .eof => throw .unexpectedEnd
  | .name spelling => return some spelling
  | .keyword word spelling =>
    return if isReserved word && !(["const", "in"].contains word) then none else some spelling
  | _ => return none

/-- Passes one of some modifiers, and says which. Before a block `static` may be none. -/
def modifier? (allowed : List String) (stopsAtBlock : Bool) : Parse (Option String) := do
  match ← modifierWord? with
  | none => return none
  | some word =>
    let startsBlock := stopsAtBlock && (← seesWord "static") && (← peeks "\x7b")
    if allowed.contains word && !startsBlock && (← modifierMayStand) then
      bump
      return some word
    else return none

def eatsModifier (allowed : List String) : Parse Bool := do
  return (← modifier? allowed false).isSome

def parameterModifiers : List String := ["public", "protected", "private", "readonly"]

/-- Passes a modifier of a parameter or of the member of an object. -/
def eatsParameterModifier : Parse Bool := do
  if ← seesOneWordOf parameterModifiers then
    let following := (← peekToken).1
    if following.isWord || following == .punctuator "[" || following == .punctuator "\x7b" then
      eatsModifier parameterModifiers
    else return false
  else return false

end UtilityClasses.Script
