import UtilityClasses.Script.Type

/-!
Functions behind their names: parameters, return type and body.
-/

namespace UtilityClasses.Script

/-- Whether statements begin with the mark that makes them strict. -/
def seesStrictMark : Parse Bool := do
  let here := (← get).here
  return "'use strict'".toList.isPrefixOf here || "\"use strict\"".toList.isPrefixOf here

/-- Items up to a closing brace, which is passed. The end of the script closes them too. -/
def itemsToBrace (item : Parse Unit) : Parse Unit := do
  let _ ← manyWhile (do return !(← sees "\x7d") && !(← seesEnd)) item
  let _ ← eats "\x7d"

def block (inner : Inner) : Parse Unit := do
  expect "\x7b"
  itemsToBrace (inner.statement .listed)

def functionBlock (inner : Inner) : Parse Unit := do
  expect "\x7b"
  let isStrict ← seesStrictMark
  inContext (fun context => { context with strict := context.strict || isStrict })
    (itemsToBrace (inner.statement .listed))

def inBody {α : Type} (asynchronous generator : Bool) (reading : Parse α) : Parse α :=
  inContext
    (fun context =>
      { context with
        inAsync := asynchronous, inGenerator := generator, inFunction := true,
        inStaticBlock := false, expectColon := false })
    reading

def inHead {α : Type} (asynchronous generator : Bool) (reading : Parse α) : Parse α :=
  inContext
    (fun context =>
      { context with
        inAsync := asynchronous, inGenerator := generator, inFunction := false,
        expectColon := false })
    reading

/-- Whether a function has no body here: none opens and a statement may end. -/
def lacksBody : Parse Bool := do
  if ← sees "\x7b" then return false else eatsSemicolon

def functionBody (inner : Inner) (asynchronous generator : Bool) : Parse Bool := do
  if ← sees ":" then returnType inner ":"
  if ← lacksBody then return false
  else
    inBody asynchronous generator (functionBlock inner)
    return true

/-- A function from its type parameters on; says whether it has a body. -/
def functionRest (inner : Inner) (asynchronous generator : Bool) : Parse Bool := do
  inHead asynchronous generator do
    optionalTypeParameters inner
    expect "("
    let _ ← parameters inner
    expect ")"
  functionBody inner asynchronous generator

def functionExpression (inner : Inner) (asynchronous : Bool) : Parse Expr := do
  expectWord "function"
  let generator ← eats "*"
  inContext
    (fun context => { context with inAsync := asynchronous, inGenerator := generator })
    optionalName
  if ← awaitingNoColon (functionRest inner asynchronous generator) then
    return .dynamic .function []
  else unexpected "\x7b"

def arrowBody (inner : Inner) (asynchronous : Bool) : Parse Bool :=
  inBody asynchronous false do
    if ← sees "\x7b" then
      functionBlock inner
      return true
    else
      let _ ← inner.assignment
      return false

/-- An asynchronous arrow function behind the word `async`, from its type parameters on. -/
def genericAsyncArrow (inner : Inner) : Parse Expr := do
  distinctTypeParameters inner
  expect "("
  let _ ← parameters inner
  expect ")"
  if ← sees ":" then returnType inner ":"
  expect "=>"
  let _ ← arrowBody inner true
  return .dynamic .arrow []

end UtilityClasses.Script
