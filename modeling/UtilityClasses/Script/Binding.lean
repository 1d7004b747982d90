import UtilityClasses.Script.Signature

/-!
Patterns that bind names: a name, a list of patterns or an object of patterns. A pattern binds what it
is given; the value of an expression never depends on it.
-/

namespace UtilityClasses.Script

def bindingElement (inner : Inner) : Parse Unit := do
  let _ ← inner.binding
  if ← eats "=" then
    let _ ← allowingIn inner.assignment

/-- An item of a list of patterns, which may be left out. -/
def bindingItem (inner : Inner) : Parse Unit := do
  if ← sees "," then return ()
  else if ← eats "..." then
    let _ ← inner.binding
  else bindingElement inner

/-- A member of an object of patterns; says whether it takes the rest of the object into a pattern of
several parts. -/
def bindingMember (inner : Inner) : Parse Bool := do
  if ← eats "..." then return (← inner.binding) == .parts
  else
    let key ← memberKey inner
    if ← eats ":" then bindingElement inner
    else match key with
      | .identifier _ =>
        if ← eats "=" then
          let _ ← allowingIn inner.assignment
      | _ => unexpected "an identifier"
    return false

/-- Patterns between braces. What is left of the object must have a name. -/
def objectPattern (inner : Inner) : Parse Unit := awaitingNoColon do
  bump
  let members ← commaList (sees "\x7d") (bindingMember inner)
  expect "\x7d"
  if members.getLast? == some true then stop .restPatternName

def binding (inner : Inner) : Parse Pattern := do
  match ← current with
  | .punctuator "[" =>
    bump
    let _ ← commaList (sees "]") (bindingItem inner)
    expect "]"
    return .parts
  | .punctuator "\x7b" =>
    objectPattern inner
    return .parts
  | .error cause => stop cause
  | token =>
    if token.isWord then
      let _ ← variableName
      return .name
    else unexpected "yield, an identifier, [ or \x7b"

end UtilityClasses.Script
