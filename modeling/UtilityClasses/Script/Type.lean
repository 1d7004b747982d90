import UtilityClasses.Script.ObjectType
import UtilityClasses.Script.Template

/-!
Types, as they stand behind `as`, `satisfies` and colons and between angle brackets. They have no part
in the value of an expression, so reading one yields nothing; what matters is where it ends.
-/

namespace UtilityClasses.Script

/-- Whether a name goes on behind a dot. A dot with nothing that could be a name is passed over. -/
def eatsQualifier : Parse Bool := do
  if ← eats "." then
    if (← current).isWord || (← sees "#") then return true
    else
      passUnreadable
      return false
  else return false

def entityName : Parse Unit := do
  let _ ← anyName
  let _ ← manyWhile eatsQualifier anyName

inductive TupleItem where
  | required
  | optional
  | rest
  deriving DecidableEq, Repr, Inhabited

def tupleLabel : Parse Unit := do
  let _ ← eats "..."
  let _ ← anyName
  let _ ← eats "?"
  expect ":"

def tupleItem (inner : Inner) : Parse TupleItem := do
  let _ ← attempt tupleLabel
  if ← eats "..." then
    inner.type
    return .rest
  else
    inner.type
    return if ← eats "?" then .optional else .required

/-- Whether a required item stands behind an optional one. -/
def misplacesRequired (items : List TupleItem) : Bool :=
  (items.dropWhile (· != .optional)).contains .required

def tupleType (inner : Inner) : Parse Unit := do
  expect "["
  let items ← commaList (sees "]") (tupleItem inner)
  expect "]"
  if misplacesRequired items then stop .requiredAfterOptional

def importAttributes (object : Parse Unit) : Parse Unit := do
  bump
  expectWord "with"
  expect ":"
  object
  let _ ← eats ","
  expect "\x7d"

/-- A type of a module. What stands for the text that names the module is passed over. -/
def importType (inner : Inner) : Parse Unit := do
  bump
  expect "("
  bump
  if (← eats ",") && (← sees "\x7b") then
    importAttributes do let _ ← inner.creation
  expect ")"
  if ← eats "." then entityName
  optionalTypeArguments inner

def typeQuery (inner : Inner) : Parse Unit := do
  bump
  if ← seesWord "import" then importType inner
  else
    entityName
    optionalTypeArguments inner

def typeExpected : String :=
  "an identifier, void, yield, null, await, break, a string literal, a numeric literal, " ++
  "true, false, `, -, import, this, typeof, \x7b, [, ("

/-- Words that are types of their own. -/
def typeWords : List String := [
  "void", "null", "any", "boolean", "bigint", "never", "number", "object", "string", "symbol",
  "unknown", "undefined", "intrinsic"]

/-- Words that may name a type besides those that are free. -/
def namesType : Token → Bool
  | .keyword word spelling =>
    ["void", "yield", "null", "await", "break"].contains word ||
      (Token.keyword word spelling).isPlainWord
  | token => token.isPlainWord

/-- What `this` is told to be, behind the word. -/
def thisAssertion (inner : Inner) : Parse Unit := do
  bump
  if ← eatsWord "is" then inner.type

def namedType (inner : Inner) : Parse Unit := do
  if (← seesWord "asserts") && (← peeksWord "this") then
    bump
    thisAssertion inner
  else if (← seesOneWordOf typeWords) && !(← peeks ".") then bump
  else
    let _ ← eatsParameterModifier
    entityName
    optionalTypeArguments inner

def negativeType : Parse Unit := do
  bump
  match ← current with
  | .number _ | .bigint => bump
  | _ => unexpected "numeric literal or bigint literal"

/-- A type that is not made of others by operators. -/
def atomicType (inner : Inner) : Parse Unit := do
  match ← current with
  | .text _ | .number _ | .bigint => bump
  | .template part =>
    let _ ← templateOf inner.type part false
  | .punctuator "-" => negativeType
  | .punctuator "[" => tupleType inner
  | .punctuator "\x7b" =>
    if ← startsMappedType then mappedType inner else objectType inner
  | .punctuator "(" =>
    bump
    inner.type
    expect ")"
  | .keyword "true" _ | .keyword "false" _ => bump
  | .keyword "import" _ => importType inner
  | .keyword "typeof" _ => typeQuery inner
  | .keyword "this" _ =>
    bump
    if (← seesWord "is") && !(← breaksBefore) then
      bump
      inner.type
  | token => if namesType token then namedType inner else unexpected typeExpected

/-- Brackets behind a type, for lists of it and for its fields. -/
def postfixType (inner : Inner) : Parse Unit := do
  atomicType inner
  let _ ← manyWhile
    (do if ← breaksBefore then return false else eats "[")
    (do
      if !(← eats "]") then
        inner.type
        expect "]")

/-- A type that is found by matching, and what bounds it. -/
def inferType (inner : Inner) : Parse Unit := do
  bump
  let _ ← anyName
  let _ ← attempt (do
    expectWord "extends"
    inner.plainType
    if !(← read).plainTypes && (← sees "?") then throw .expressionExpected)

def operatorType (inner : Inner) : Parse Unit := do
  let _ ← manyWhile (seesOneWordOf ["keyof", "unique", "readonly"]) bump
  if ← seesWord "infer" then inferType inner
  else
    let _ ← eatsModifier ["readonly"]
    postfixType inner

/-- Types with an operator between them, which may also stand before the first. -/
def operatorList (operator : String) (operand : Parse Unit) : Parse Unit := do
  let _ ← eats operator
  operand
  let _ ← manyWhile (eats operator) operand

def unionType (inner : Inner) : Parse Unit :=
  operatorList "|" (operatorList "&" (operatorType inner))

def startsFunctionType (inner : Inner) : Parse Bool := looksLike do
  bump
  if ← seesOneOf [")", "..."] then return true
  let _ ← eatsParameterModifier
  if (← current).isWord then bump
  else if ← seesOneOf ["\x7b", "["] then
    let _ ← inner.binding
  else return false
  if ← seesOneOf [":", ",", "?", "="] then return true
  if ← eats ")" then sees "=>" else return false

def functionType (inner : Inner) : Parse Unit := do
  optionalTypeParameters inner
  let _ ← typeSignature inner
  returnType inner "=>"

def plainType (inner : Inner) : Parse Unit := do
  if ← sees "<" then functionType inner
  else if (← sees "(") && (← startsFunctionType inner) then functionType inner
  else if ← eatsWord "new" then functionType inner
  else if (← seesWord "abstract") && (← peeksWord "new") then
    bump
    bump
    functionType inner
  else unionType inner

def choosingTypes {α : Type} (allowed : Bool) (reading : Parse α) : Parse α :=
  inContext (fun context => { context with plainTypes := !allowed }) reading

/-- A type, which may be chosen by a condition. -/
def fullType (inner : Inner) : Parse Unit := choosingTypes true do
  inner.plainType
  if !(← breaksBefore) && (← eatsWord "extends") then
    choosingTypes false inner.plainType
    expect "?"
    inner.type
    expect ":"
    inner.type

end UtilityClasses.Script
