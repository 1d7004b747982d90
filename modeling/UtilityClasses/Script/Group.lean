import UtilityClasses.Script.Collection
import UtilityClasses.Script.Operator

/-!
Parentheses. What they hold is read once, as items that may be expressions as well as parameters;
what follows decides whether it was a group or the head of an arrow function.
-/

namespace UtilityClasses.Script

inductive GroupItem where
  | value (spread : Bool) (expr : Expr)
  | pattern (isName : Bool)
  deriving Repr, Inhabited

namespace GroupItem

def isPattern : GroupItem → Bool
  | pattern _ => true
  | value .. => false

def isName : GroupItem → Bool
  | pattern isName => isName
  | value _ (.identifier _) => true
  | value .. => false

def holdsMethod : GroupItem → Bool
  | pattern _ => false
  | value _ expr => expr.patternHasMethod false

def isSpread : GroupItem → Bool
  | value spread _ => spread
  | pattern _ => false

end GroupItem

def isName : Expr → Bool
  | .identifier _ => true
  | _ => false

def takesType : Expr → Bool
  | .identifier _ | .object _ | .list _ => true
  | _ => false

/-- The expression an item begins with. A name is read without a condition, whose question mark may
belong to the parameter. -/
def itemExpression (inner : Inner) : Parse (Bool × Expr) := do
  if ← seesName then
    return (false, ← assignmentTo inner (← binary inner))
  else if (← sees "...") && (← peeksName) then
    bump
    return (true, ← allowingIn (binary inner))
  else spreadable inner

def marksOptional : Parse Bool := do
  return [.punctuator ",", .punctuator ":", .punctuator ")", .punctuator "="].contains
    (← peekToken).1

def parameterRest (inner : Inner) (spread : Bool) (expr : Expr) : Parse GroupItem := do
  if expr.patternHasMethod false then stop .invalidPattern
  if spread || takesType expr then optionalTypeAnnotation inner
  if ← eats "=" then
    let _ ← inner.assignment
    return .pattern false
  else return .pattern (isName expr && !spread)

def itemRest (inner : Inner) (spread : Bool) (expr : Expr) : Parse GroupItem := do
  if ← sees "?" then
    if ← marksOptional then
      bump
      if isName expr then parameterRest inner spread expr else stop .optionalPattern
    else if spread then return .value true expr
    else
      bump
      return .value false (← branches inner expr)
  else if ← sees ":" then parameterRest inner spread expr
  else return .value spread expr

def groupItem (inner : Inner) : Parse GroupItem := do
  modify fun cursor => { cursor with arrowStart := true }
  let _ ← eatsParameterModifier
  let (spread, expr) ← itemExpression inner
  itemRest inner spread expr

/-- Items up to the closing parenthesis. After a name an arrow function may go on at once. -/
def groupItemsFrom (inner : Inner) : Nat → List GroupItem → Parse (List GroupItem)
  | 0, read => return read.reverse
  | fuel + 1, read => do
    if ← eats ")" then return read.reverse
    else
      let item ← groupItem inner
      let read := item :: read
      let isHead := read.getLast?.any GroupItem.isName
      if ← eats "=>" then
        if isHead then
          let _ ← arrowBody inner false
          endItem fuel (.value false (.dynamic .arrow []) :: read)
        else endItem fuel read
      else endItem fuel read
where
  endItem (fuel : Nat) (read : List GroupItem) : Parse (List GroupItem) := do
    if !(← sees ")") then expect ","
    groupItemsFrom inner fuel read

def groupItems (inner : Inner) : Parse (List GroupItem) := awaitingNoColon <| allowingIn do
  expect "("
  groupItemsFrom inner ((← get).here.length + 1) []

/-- Refuses items that are no parameters. What is spread out before the last item counts for nothing. -/
def refuseMethods (items : List GroupItem) : Parse Unit := do
  let kept := items.dropLast.filter (!·.isSpread) ++ items.getLast?.toList
  if kept.any GroupItem.holdsMethod then stop .invalidPattern

/-- An arrow function in the first branch of a condition, whose colon may be that of a return type.
It is one only if another colon follows. -/
def arrowInBranch (inner : Inner) (asynchronous : Bool) (items : List GroupItem) : Parse Expr := do
  returnType inner ":"
  expect "=>"
  refuseMethods items
  let _ ← arrowBody inner asynchronous
  if ← sees ":" then return .dynamic .arrow [] else unexpected "fail"

def arrowInBranch? (inner : Inner) (asynchronous : Bool) (items : List GroupItem) :
    Parse (Option Expr) := do
  let context ← read
  if context.inConditional && context.expectColon && (← sees ":") then
    attempt (arrowInBranch inner asynchronous items)
  else return none

/-- Passes a return type if an arrow follows it. -/
def returnTypeBeforeArrow (inner : Inner) : Parse Bool := do
  if !(← read).expectColon && (← sees ":") then
    let found ← attempt (do
      returnType inner ":"
      if !(← sees "=>") then unexpected "fail")
    return found.isSome
  else return false

/-- An arrow function behind its parameters. Behind a block operators are passed over. -/
def arrowRest (inner : Inner) (asynchronous mayBeArrow : Bool) (items : List GroupItem) :
    Parse Expr := do
  if ← breaksBefore then stop .lineBreakBeforeArrow
  if !mayBeArrow then stop .arrowNotAllowed
  expect "=>"
  refuseMethods items
  let isBlock ← arrowBody inner asynchronous
  if isBlock && (← seesOperatorSign) then operatorsBehind inner (.dynamic .arrow [])
  else return .dynamic .arrow []

def GroupItem.expression : GroupItem → Parse (Bool × Expr)
  | value spread expr => return (spread, expr)
  | pattern _ => stop .notExpression

def groupOf : List (Bool × Expr) → Parse Expr
  | [] => stop .emptyGroup
  | items => do
    if items.any (·.1) then stop .spreadInGroup
    match items.map (·.2) with
    | [] => stop .emptyGroup
    | [only] => return .group only
    | first :: others => return .group (.sequence first others)

/-- A group, an arrow function or, behind `async`, the arguments of a call. -/
def groupOrArrow (inner : Inner) (asynchronous mayBeArrow : Bool) : Parse Expr := do
  let items ← groupItems inner
  match ← arrowInBranch? inner asynchronous items with
  | some arrow => return arrow
  | none =>
    let hasType ← returnTypeBeforeArrow inner
    if hasType || items.any GroupItem.isPattern || (← sees "=>") then
      arrowRest inner asynchronous mayBeArrow items
    else
      let values ← items.mapM GroupItem.expression
      if asynchronous then
        return .dynamic .call (.identifier "async" :: values.map (·.2))
      else groupOf values

end UtilityClasses.Script
