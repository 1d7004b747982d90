import UtilityClasses.Script.Function

/-!
Objects and lists.
-/

namespace UtilityClasses.Script

/-- Items between commas up to a closing bracket, which is passed. -/
def closedList {α : Type} (close : String) (item : Parse α) : Parse (List α) := do
  let items ← commaList (sees close) item
  expect close
  return items

/-- An item of a list or of arguments; says whether it is spread out. -/
def spreadable (inner : Inner) : Parse (Bool × Expr) := do
  let spread ← eats "..."
  return (spread, ← allowingIn inner.assignment)

def arguments (inner : Inner) : Parse (List Expr) := awaitingNoColon do
  expect "("
  let items ← closedList ")" (spreadable inner)
  return items.map (·.2)

def listItem (inner : Inner) : Parse Expr := do
  if ← sees "," then return .dynamic .missing []
  else
    let (spread, expr) ← spreadable inner
    return if spread then .dynamic .spread [expr] else expr

def list (inner : Inner) : Parse Expr := awaitingNoColon do
  bump
  return .list (← closedList "]" (listItem inner))

/-- Whether a member may go on behind its key. Where it cannot, its value is passed over. -/
def continuesMember (key : Key) : Parse Bool := do
  match ← current with
  | .punctuator "\x7d" =>
    match key with
    | .identifier _ => return true
    | _ => return false
  | .punctuator spelling => return ["(", "[", ":", ",", "?", "=", "*", "<"].contains spelling
  | token => return token.isWord || token.isText || token.isNumber

def method (inner : Inner) (key : Key) (asynchronous generator : Bool) : Parse Member := do
  let _ ← functionRest inner asynchronous generator
  return .method key

def memberContinuation : String :=
  "... , *,  (, [, :, , ?, =, an identifier, public, protected, private, readonly, <."

def namedMember (inner : Inner) (name : String) : Parse Member := do
  let _ ← eats "?"
  if ← eats "=" then return .shorthandDefault name (← allowingIn inner.assignment)
  else if ← seesOneOf [",", "\x7d"] then return .shorthand name
  else if name == "get" || name == "set" then
    method inner (← memberKey inner) false false
  else if name == "async" then
    let generator ← eats "*"
    method inner (← memberKey inner) true generator
  else unexpected memberContinuation

def keyedValue (inner : Inner) (key : Key) : Parse Member := do
  if !(← continuesMember key) then
    passUnreadable
    return .entry key (.dynamic .missing [])
  else if ← eats ":" then return .entry key (← allowingIn inner.assignment)
  else if ← seesOneOf ["(", "<"] then method inner key false false
  else match key with
    | .identifier name => namedMember inner name
    | _ => unexpected "identifier"

def member (inner : Inner) : Parse Member := do
  if ← eats "..." then return .spread (← allowingIn inner.assignment)
  else if ← eats "*" then method inner (← memberKey inner) false true
  else
    let _ ← eatsParameterModifier
    keyedValue inner (← memberKey inner)

def object (inner : Inner) : Parse Expr := awaitingNoColon do
  bump
  return .object (← closedList "\x7d" (member inner))

end UtilityClasses.Script
