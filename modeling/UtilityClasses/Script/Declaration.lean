import UtilityClasses.Script.Class

/-!
Declarations: variables, functions, classes, enumerations, interfaces, names of types and name spaces.
-/

namespace UtilityClasses.Script

inductive VariableKind where
  | var
  | letKind
  | const
  deriving DecidableEq, Repr, Inhabited

/-- The name or pattern of a variable; `let` is no name where `let` or `const` declares it. -/
def variablePattern (inner : Inner) (kind : VariableKind) : Parse Pattern := do
  if kind ≠ .var && (← seesWord "let") then
    unexpected "let is reserved in const, let, class declaration"
  else inner.binding

/-- A pattern needs a value, unless a constant lacks it, what is declared exists elsewhere or a loop
gives it. -/
def refuseUninitialized (kind : VariableKind) (inLoop : Bool) (pattern : Pattern) : Parse Unit := do
  if pattern == .parts && !(← read).ambient && (kind ≠ .const || inLoop) then
    stop .uninitializedPattern

def declarator (inner : Inner) (kind : VariableKind) (inLoop : Bool) : Parse Unit := do
  let pattern ← variablePattern inner kind
  if pattern == .name then
    let _ ← eats "!"
  optionalTypeAnnotation inner
  if inLoop && (← seesOneWordOf ["in", "of"]) then return ()
  else if ← eats "=" then
    let _ ← inner.assignment
  else refuseUninitialized kind inLoop pattern

/-- Variables between commas. A comma before the end is passed over. -/
def declarators (inner : Inner) (kind : VariableKind) (inLoop : Bool) : Parse Unit := do
  if !(← sees ";") then
    declarator inner kind inLoop
    let _ ← manyWhile
      (do if ← eats "," then return !(← sees ";") else return false)
      (declarator inner kind inLoop)

/-- Passes a token, unless a statement ends before it. Says whether another one may be passed. -/
def passesToken : Parse Bool := do
  if ← eatsSemicolon then return false
  else
    bump
    return !((← current) matches .error _)

/-- Passes what stands between variables and the end of their statement, or the next token that cannot
be read. -/
def skipToSemicolon (inner : Inner) : Parse Unit := do
  if !(← eatsSemicolon) then
    passUnreadable
    let _ ← (try expression inner catch _ => return .null)
    let _ ← manyWhile passesToken (pure ())

def variableKind? : Parse (Option VariableKind) := do
  match ← current with
  | .keyword "var" _ => return some .var
  | .keyword "let" _ => return some .letKind
  | .keyword "const" _ => return some .const
  | _ => return none

def variableStatement (inner : Inner) (kind : VariableKind) : Parse Unit := do
  bump
  allowingIn (declarators inner kind false)
  skipToSemicolon inner

def declaresVariables : Parse Bool := do
  let following := (← peekToken).1
  return following.isFreeWord || following == .punctuator "[" || following == .punctuator "\x7b"

/-- A resource, which is declared without a need for a semicolon behind it. -/
def resourceDeclaration? (inner : Inner) : Parse Bool := do
  let (following, lineBreak) := ← peekToken
  if !lineBreak && (← read).isIdentifier following then
    bump
    declarators inner .var false
    return true
  else return false

def functionDeclaration (inner : Inner) (asynchronous : Bool) : Parse Unit := do
  expectWord "function"
  let generator ← eats "*"
  let _ ← variableName
  let _ ← functionRest inner asynchronous generator

def className : Parse Unit := do
  if ← seesWord "let" then unexpected "let is reserved in const, let, class declaration"
  let _ ← variableName

def classDeclaration (inner : Inner) : Parse Unit := do
  expectWord "class"
  classRest inner className

def enumKey (inner : Inner) : Parse Unit := do
  match ← current with
  | .text _ | .number _ => bump
  | .punctuator "[" =>
    bump
    let _ ← expression inner
    expect "]"
  | .error cause => stop cause
  | _ =>
    let _ ← anyName

/-- A member of an enumeration and the comma behind it. What stands in place of the comma is passed
over. -/
def enumMember (inner : Inner) : Parse Unit := do
  enumKey inner
  if ← eats "=" then
    let _ ← inner.assignment
    if !(← eats ",") && !(← sees "\x7d") then passUnreadable
  else if !(← sees "\x7d") then bump

def enumDeclaration (inner : Inner) : Parse Unit := do
  let _ ← anyName
  expect "\x7b"
  let _ ← manyWhile (do return !(← sees "\x7d")) (enumMember inner)
  expect "\x7d"

/-- An interface behind its word. A second list of interfaces is passed over. -/
def interfaceDeclaration (inner : Inner) : Parse Unit := do
  let _ ← anyName
  optionalTypeParameters inner
  if ← eatsWord "extends" then heritageList inner
  if ← seesWord "extends" then
    let _ ← manyWhile (do return !(← seesEnd) && !(← sees "\x7b")) bump
  inTypes (objectType inner)

def typeDeclaration (inner : Inner) : Parse Unit := do
  let _ ← anyName
  optionalTypeParameters inner
  if !(← sees "=") then unexpected "="
  typeBehind inner "="
  expectSemicolon

def moduleBlock (inner : Inner) : Parse Unit := do
  expect "\x7b"
  itemsToBrace (inner.statement .inNamespace)

/-- A name space behind its word: names with dots between them and a block. -/
def namespaceDeclaration (inner : Inner) : Parse Unit := do
  let _ ← anyName
  let _ ← manyWhile (eats ".") anyName
  moduleBlock inner

def ambientModule (inner : Inner) : Parse Unit := do
  bump
  if ← sees "\x7b" then moduleBlock inner else expectSemicolon

/-- A declaration that begins with a word that may also be a name; the word is next. -/
def declarationFrom? (inner : Inner) (word : String) : Parse Bool := do
  match word with
  | "abstract" =>
    bump
    classDeclaration inner
  | "enum" =>
    bump
    enumDeclaration inner
  | "interface" =>
    bump
    interfaceDeclaration inner
  | "type" =>
    bump
    typeDeclaration inner
  | "namespace" =>
    bump
    namespaceDeclaration inner
  | "module" =>
    if ← breaksBefore then return false
    bump
    refuseUnreadable
    if (← current).isText then ambientModule inner else namespaceDeclaration inner
  | _ => return false
  return true

/-- A declaration of what exists elsewhere, behind `declare`. -/
def ambientDeclaration? (inner : Inner) : Parse Bool :=
  inContext (fun context => { context with ambient := true }) do
    match ← current with
    | .keyword "function" _ => functionDeclaration inner false
    | .keyword "class" _ => classDeclaration inner
    | .keyword "global" _ => ambientModule inner
    | token =>
      if (← seesWord "const") && (← peeksWord "enum") then
        bump
        bump
        enumDeclaration inner
      else match ← variableKind?, token.spelling? with
        | some kind, _ => variableStatement inner kind
        | none, some word => return ← declarationFrom? inner word
        | none, none => return false
    return true

end UtilityClasses.Script
