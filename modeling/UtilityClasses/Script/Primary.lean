import UtilityClasses.Script.Class
import UtilityClasses.Script.Group
import UtilityClasses.Script.Template

/-!
Expressions that are not made of others by operators, members or calls.
-/

namespace UtilityClasses.Script

/-- A regular expression whose first slash was read as an operator. Nothing behind one with a fault can
be reached. -/
def regex : Parse Expr := do
  match readRegex false false ((← get).here.drop 1) with
  | (.ok _, rest) =>
    resumeAt rest
    return .dynamic .regex []
  | (.error cause, rest) =>
    modify fun cursor => { cursor with token := .error cause, rest := rest, stuck := true }
    throw .expressionExpected

/-- An arrow function whose only parameter stands behind `async`. -/
def asyncArrow (inner : Inner) : Parse Expr := do
  let parameter ← variableName
  if parameter == "as" && !(← sees "=>") then
    inTypes inner.type
    return .typed .asType (.identifier "async")
  else
    expect "=>"
    let _ ← arrowBody inner true
    return .dynamic .arrow []

/-- In the head of a loop `async` before `of` is a name, unless an arrow follows. -/
def endsLoopName : Parse Bool := do
  return (← read).inLoopHead && (← seesWord "of") && !(← peeks "=>")

def named (inner : Inner) (mayBeArrow : Bool) : Parse Expr := do
  let marksAsync ← seesWord "async"
  let name ← variableName
  if !mayBeArrow || (← breaksBefore) then return .identifier name
  else if marksAsync && (← seesName) then
    if ← endsLoopName then return .identifier name else asyncArrow inner
  else if ← eats "=>" then
    let _ ← arrowBody inner false
    return .dynamic .arrow []
  else return .identifier name

/-- The word `async`: the mark of a function, or a name. -/
def asyncOrNamed (inner : Inner) (mayBeArrow : Bool) : Parse Expr := do
  let (following, lineBreak) := ← peekToken
  if following.isKeyword "function" && !lineBreak then
    bump
    functionExpression inner true
  else
    let generic ←
      if mayBeArrow && following == .punctuator "<" then
        attempt (do
          bump
          genericAsyncArrow inner)
      else pure none
    match generic with
    | some arrow => return arrow
    | none =>
      if mayBeArrow && following == .punctuator "(" then
        bump
        groupOrArrow inner true true
      else named inner mayBeArrow

def passing (expr : Expr) : Parse Expr := do
  bump
  return expr

/-- What a keyword begins or, where it is an identifier, names. -/
def keyword (inner : Inner) (mayBeArrow : Bool) (word : String) : Parse Expr := do
  match word with
  | "this" => passing (.dynamic .this [])
  | "null" => passing .null
  | "true" => passing (.boolean true)
  | "false" => passing (.boolean false)
  | "function" => functionExpression inner false
  | "class" => classExpression inner
  | "async" => asyncOrNamed inner mayBeArrow
  | "let" | "await" => named inner mayBeArrow
  | _ => if ← seesName then named inner mayBeArrow else stop .expressionExpected

def privateName : Parse Expr := do
  bump
  let _ ← anyName
  return .dynamic .privateName []

def primary (inner : Inner) : Parse Expr := do
  let mayBeArrow := (← get).arrowStart
  match ← current with
  | .text value => passing (.text value)
  | .number value => passing (.number value)
  | .bigint => passing (.dynamic .bigint [])
  | .template part => template inner part false
  | .name _ => named inner mayBeArrow
  | .keyword word _ => keyword inner mayBeArrow word
  | .punctuator "(" => groupOrArrow inner false mayBeArrow
  | .punctuator "[" => list inner
  | .punctuator "\x7b" => object inner
  | .punctuator "/" | .punctuator "/=" => regex
  | .punctuator "#" => privateName
  | _ => stop .expressionExpected

end UtilityClasses.Script
