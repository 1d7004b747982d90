import UtilityClasses.Script.Declaration

/-!
What a name space takes in from elsewhere and gives out. An import that is called, or asked for what is
known of this module, is an expression; only such imports may stand outside name spaces.
-/

namespace UtilityClasses.Script

def passText : Parse Unit := do
  if (← current).isText then bump else unexpected "a string literal"

def optionalAttributes (inner : Inner) : Parse Unit := do
  if !(← breaksBefore) && (← seesOneWordOf ["assert", "with"]) then
    bump
    if !(← sees "\x7b") then missing "\x7b"
    let _ ← object inner

def fromModule (inner : Inner) : Parse Unit := do
  expectWord "from"
  passText
  optionalAttributes inner
  let _ ← eatsSemicolon

/-- What stands behind the equals sign of a name that is imported: a module or a longer name. -/
def importedValue : Parse Unit := do
  expect "="
  if (← seesWord "require") && (← peeks "(") then
    bump
    bump
    passText
    expect ")"
  else entityName
  expectSemicolon

/-- A name that is imported, or exported, and the name that it gets. -/
def renamedName : Parse Unit := do
  if (← current).isText then bump
  else
    let name ← anyName
    if name == "type" && (← current).isWord && !(← seesWord "as") then
      let _ ← anyName
  if ← eatsWord "as" then
    if (← current).isText then bump
    else
      let _ ← anyName

def renamedNames : Parse Unit := do
  expect "\x7b"
  let _ ← commaList (sees "\x7d") renamedName
  expect "\x7d"

/-- Whether the name that was read is a word that marks the name or list behind it. -/
def marksImport (name : String) : Parse Bool := do
  if !(["type", "source", "defer"].contains name) then return false
  else if ← seesOneOf ["\x7b", "*"] then return true
  else return (← seesName) && (!(← seesWord "from") || (← peeksWord "from"))

/-- What is imported besides a name: all under a name, or a list of names. -/
def importedNames (inner : Inner) : Parse Unit := do
  if ← eats "*" then
    expectWord "as"
    let _ ← variableName
  else if ← sees "\x7b" then renamedNames
  fromModule inner

def importName (inner : Inner) : Parse Unit := do
  let name ← variableName
  let marks ← marksImport name
  if marks && (← seesName) then
    let _ ← variableName
  if marks && (← seesOneOf ["\x7b", "*"]) then importedNames inner
  else if ← sees "=" then importedValue
  else
    if !(← seesWord "from") then expect ","
    importedNames inner

def importItem (inner : Inner) : Parse Unit := do
  bump
  if (← current).isText then
    bump
    optionalAttributes inner
    let _ ← eatsSemicolon
  else if ← seesName then importName inner
  else importedNames inner

/-- A function or a class that is exported without a need for a name, or the value of an expression. -/
def exportedDefault (inner : Inner) : Parse Unit := do
  if ← seesWordBefore "abstract" (Token.isKeyword · "class") then bump
  if ← eatsWord "interface" then interfaceDeclaration inner
  else if ← eatsWord "class" then classRest inner optionalName
  else
    let asynchronous ← seesWordBefore "async" (Token.isKeyword · "function")
    if asynchronous then bump
    if ← eatsWord "function" then
      let generator ← eats "*"
      optionalName
      let _ ← functionRest inner asynchronous generator
    else
      let _ ← allowingIn inner.assignment
      expectSemicolon

def exportedNames (inner : Inner) : Parse Unit := do
  if ← eats "*" then
    if ← eatsWord "as" then
      if (← current).isText then bump
      else
        let _ ← anyName
    fromModule inner
  else
    renamedNames
    if ← seesWord "from" then fromModule inner
    else
      let _ ← eatsSemicolon

/-- A declaration that is exported, where one begins. -/
def exportedDeclaration? (inner : Inner) : Parse Bool := do
  if ← seesWord "class" then classDeclaration inner
  else if ← seesWord "function" then functionDeclaration inner false
  else if ← seesWordBefore "async" (Token.isKeyword · "function") then
    bump
    functionDeclaration inner true
  else if (← seesWord "const") && (← peeksWord "enum") then
    bump
    bump
    enumDeclaration inner
  else match ← variableKind? with
    | some kind => variableStatement inner kind
    | none =>
      match (← current).spelling? with
      | none => return false
      | some word => return (← attempt (declarationFrom? inner word)).getD false
  return true

def exportItem (inner : Inner) : Parse Unit := do
  bump
  let isDeclared ← if ← eatsWord "declare" then ambientDeclaration? inner else pure false
  if isDeclared then return ()
  else if ← exportedDeclaration? inner then return ()
  else if ← eatsWord "import" then
    if (← seesWord "type") && (← peekToken).1.isWord then bump
    let _ ← anyName
    importedValue
  else if ← eats "=" then
    let _ ← expression inner
    expectSemicolon
  else if ← eatsWord "as" then
    expectWord "namespace"
    let _ ← variableName
    expectSemicolon
  else if ← eatsWord "default" then exportedDefault inner
  else
    let _ ← eatsWord "type"
    exportedNames inner

def startsModuleExpression : Parse Bool := do
  return (← seesWord "import") && ((← peeks "(") || (← peeks "."))

def moduleStatement (inner : Inner) (place : StatementPlace) : Parse Unit := do
  if ← startsModuleExpression then
    let _ ← expression inner
    let _ ← eatsSemicolon
  else if place ≠ .inNamespace then stop .moduleItemNotAllowed
  else if ← seesWord "import" then importItem inner
  else exportItem inner

end UtilityClasses.Script
