import UtilityClasses.Script.ModuleItem

/-!
Statements. They have no part in the value of an expression, so reading one yields nothing; what
matters is where it ends and whether it is a statement at all.
-/

namespace UtilityClasses.Script

def parenthesized (inner : Inner) : Parse Unit := do
  expect "("
  let _ ← expression inner
  expect ")"

def expressionToEnd (inner : Inner) : Parse Unit := do
  let _ ← expression inner
  expectSemicolon

/-- A statement that goes to a place, which may be named. -/
def jump : Parse Unit := do
  bump
  if !(← eatsSemicolon) then
    let _ ← variableName
    expectSemicolon

def returnStatement (inner : Inner) : Parse Unit := do
  bump
  if !(← eatsSemicolon) then expressionToEnd inner

def throwStatement (inner : Inner) : Parse Unit := do
  bump
  if ← breaksBefore then stop .lineBreakAfterThrow
  expressionToEnd inner

def ifStatement (inner : Inner) : Parse Unit := do
  bump
  parenthesized inner
  inner.statement .alone
  if ← eatsWord "else" then inner.statement .alone

def whileStatement (inner : Inner) : Parse Unit := do
  bump
  parenthesized inner
  inner.statement .alone

def doStatement (inner : Inner) : Parse Unit := do
  bump
  inner.statement .alone
  expectWord "while"
  parenthesized inner
  let _ ← eats ";"

/-- How a loop goes on: over the items of a value, over its keys, or under a condition. -/
inductive LoopKind where
  | items
  | keys
  | counting
  deriving DecidableEq, Repr, Inhabited

/-- The rest of the head of a loop over the items or the keys of a value. -/
def loopOver (inner : Inner) : Parse LoopKind := do
  if ← eatsWord "of" then
    let _ ← inner.assignment
    return .items
  else
    bump
    let _ ← expression inner
    return .keys

def loopControl (inner : Inner) : Parse LoopKind := do
  if !(← eats ";") then
    let _ ← expression inner
    expect ";"
  if !(← sees ")") then
    let _ ← expression inner
  return .counting

def loopRest (inner : Inner) : Parse LoopKind := do
  if ← seesOneWordOf ["of", "in"] then loopOver inner
  else
    expect ";"
    loopControl inner

/-- Whether the value of a loop follows at once, so that no variable is declared. -/
def lacksLoopVariable (inner : Inner) : Parse Bool := looksLike do
  if ← seesOneWordOf ["of", "in"] then
    bump
    let _ ← inner.assignment
    expect ")"
    return true
  else return false

/-- Variables at the head of a loop, behind the word that declares them. -/
def loopVariables (inner : Inner) (kind : VariableKind) : Parse LoopKind := do
  if !(← lacksLoopVariable inner) then
    inContext (fun context => { context with allowIn := kind ≠ .var }) (declarators inner kind true)
  loopRest inner

def marksResource : Expr → Bool
  | .identifier name => name == "using"
  | .dynamic .awaited [.identifier name] => name == "using"
  | _ => false

def seesResourceName (mark : Expr) : Parse Bool := do
  return marksResource mark && !(← seesWord "of") &&
    ((← peeksWord "of") || (← peeksWord "in"))

def loopFrom (inner : Inner) : Parse LoopKind := do
  let start ← inContext (fun context => { context with allowIn := false }) (expression inner)
  if ← seesResourceName start then
    let _ ← variableName
    loopOver inner
  else
    if (← seesOneWordOf ["of", "in"]) && start.patternHasMethod true then stop .invalidPattern
    loopRest inner

def declaredVariables? : Parse (Option VariableKind) := do
  match ← variableKind? with
  | some .letKind => return if ← declaresVariables then some .letKind else none
  | found => return found

def loopHead (inner : Inner) : Parse LoopKind :=
  inContext (fun context => { context with inLoopHead := true }) do
    match ← declaredVariables? with
    | some kind =>
      bump
      loopVariables inner kind
    | none => if ← eats ";" then loopControl inner else loopFrom inner

def forStatement (inner : Inner) : Parse Unit := do
  bump
  let awaits ← eatsWord "await"
  expect "("
  let kind ← loopHead inner
  expect ")"
  inner.statement .alone
  if awaits && kind ≠ .items then stop .awaitLoop

def endsBranch : Parse Bool := do
  return (← seesOneWordOf ["case", "default"]) || (← sees "\x7d")

def branchStatements (inner : Inner) : Parse Unit := do
  expect ":"
  let _ ← manyWhile (do return !(← endsBranch)) (inner.statement .listed)

/-- The branches of a choice, of which one may be without a condition. -/
def switchBranches (inner : Inner) : Nat → Bool → Parse Unit
  | 0, _ => return ()
  | fuel + 1, hasDefault => do
    if ← eatsWord "case" then
      let _ ← expression inner
      branchStatements inner
      switchBranches inner fuel hasDefault
    else if ← eatsWord "default" then
      if hasDefault then stop .repeatedDefault
      branchStatements inner
      switchBranches inner fuel true

def switchStatement (inner : Inner) : Parse Unit := do
  bump
  parenthesized inner
  expect "\x7b"
  switchBranches inner ((← get).here.length + 1) false
  expect "\x7d"

def catchClause (inner : Inner) : Parse Unit := do
  if ← eatsWord "catch" then
    if ← eats "(" then
      let _ ← inner.binding
      optionalTypeAnnotation inner
      expect ")"
    block inner

def finallyClause (inner : Inner) : Parse Unit := do
  if ← eatsWord "finally" then block inner

def tryStatement (inner : Inner) : Parse Unit := do
  bump
  block inner
  catchClause inner
  finallyClause inner

/-- Clauses without the block that they belong to are passed over, up to a fault in them. -/
def strayClauses (inner : Inner) : Parse Unit := do
  try catchClause inner catch _ => pure ()
  try finallyClause inner catch _ => pure ()

/-- A resource behind `await`, or what is awaited. -/
def awaitedResource (inner : Inner) : Parse Unit := do
  bump
  if !(← resourceDeclaration? inner) then
    let value ← awaited inner
    let _ ← operatorsBehind inner value
    let _ ← eats ";"

/-- A declaration behind a name that also marks one, if that is what follows. -/
def declarationBehind? (inner : Inner) (name : String) : Parse Bool := do
  let onLine := !(← breaksBefore)
  match name with
  | "declare" => ambientDeclaration? inner
  | "global" =>
    if ← sees "\x7b" then
      moduleBlock inner
      return true
    else return false
  | "abstract" =>
    if onLine && (← seesWord "class") then
      classDeclaration inner
      return true
    else markedInterface
  | "public" | "static" => markedInterface
  | "enum" => beforeName (enumDeclaration inner)
  | "interface" => beforeName (interfaceDeclaration inner)
  | "namespace" => beforeName (namespaceDeclaration inner)
  | "type" => if onLine then beforeName (typeDeclaration inner) else return false
  | "module" =>
    if !onLine then return false
    else if (← current).isText then
      ambientModule inner
      return true
    else beforeName (namespaceDeclaration inner)
  | _ => return false
where
  beforeName (declaration : Parse Unit) : Parse Bool := do
    if ← seesName then
      declaration
      return true
    else return false
  markedInterface : Parse Bool := do
    if ← eatsWord "interface" then
      interfaceDeclaration inner
      return true
    else return false

/-- The end of a statement that is an expression. Operators that go on with it are passed over. -/
def endExpression (inner : Inner) (value : Expr) : Parse Unit := do
  if !(← eatsSemicolon) then
    if ← seesOperatorSign then
      let _ ← operatorsBehind inner value
    else stop .statementEndExpected

/-- A statement behind a name: a label, a declaration or the end of an expression. -/
def namedStatement (inner : Inner) (name : String) : Parse Unit := do
  if ← eats ":" then inner.statement .alone
  else if name == "interface" && (← breaksBefore) then
    let _ ← eats ";"
  else if !(← declarationBehind? inner name) then endExpression inner (.identifier name)

def expressionStatement (inner : Inner) : Parse Unit := do
  match ← expression inner with
  | .identifier name => namedStatement inner name
  | value => endExpression inner value

/-- A declaration that only a list of statements may hold, if one begins here. -/
def listedDeclaration? (inner : Inner) : Parse Bool := do
  if (← seesWord "await") && (← peeksWord "using") then
    awaitedResource inner
    return true
  else if ← seesWord "using" then resourceDeclaration? inner
  else match ← declaredVariables? with
    | some kind =>
      variableStatement inner kind
      return true
    | none => return false

/-- A statement that begins with a word that may also be a name, or with an expression. -/
def freeStatement (inner : Inner) : Parse Unit := do
  if ← seesWordBefore "interface" Token.isWord then
    bump
    interfaceDeclaration inner
  else if ← seesWordBefore "type" Token.isWord then
    bump
    typeDeclaration inner
  else if ← seesWordBefore "async" (Token.isKeyword · "function") then
    bump
    functionDeclaration inner true
  else expressionStatement inner

def keywordStatement (inner : Inner) (word : String) : Parse Unit := do
  match word with
  | "break" | "continue" => jump
  | "debugger" =>
    bump
    expectSemicolon
  | "do" => doStatement inner
  | "for" => forStatement inner
  | "function" => functionDeclaration inner false
  | "class" => classDeclaration inner
  | "if" => ifStatement inner
  | "return" => returnStatement inner
  | "switch" => switchStatement inner
  | "throw" => throwStatement inner
  | "catch" | "finally" => strayClauses inner
  | "try" => tryStatement inner
  | "while" | "with" => whileStatement inner
  | "var" => variableStatement inner .var
  | _ => freeStatement inner

def plainStatement (inner : Inner) (place : StatementPlace) : Parse Unit := do
  if (← seesWord "const") && (← peeksWord "enum") then
    bump
    bump
    enumDeclaration inner
  else if ← seesWordBefore "enum" Token.isWord then
    bump
    enumDeclaration inner
  else
    let isDeclaration ← if place = .alone then pure false else listedDeclaration? inner
    if isDeclaration then return ()
    else match ← current with
      | .punctuator "\x7b" => block inner
      | .punctuator ";" => bump
      | .keyword word _ => keywordStatement inner word
      | _ => expressionStatement inner

def statement (inner : Inner) (place : StatementPlace) : Parse Unit := do
  if ← seesOneWordOf ["import", "export"] then moduleStatement inner place
  else
    inContext (fun context => { context with allowIn := true, expectColon := false })
      (plainStatement inner place)

end UtilityClasses.Script
