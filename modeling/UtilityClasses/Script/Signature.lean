import UtilityClasses.Script.Name

/-!
What functions take and give back: type parameters, parameters and return types; and the keys of
members. Types are read by the readers that `Inner` hands in.
-/

namespace UtilityClasses.Script

/-- A name that was read, or a longer pattern, as parameter; with a default or spread out. -/
inductive Parameter where
  | plain (pattern : Pattern)
  | defaulted
  | rest
  deriving DecidableEq, Repr, Inhabited

def closesAngles : Parse Bool := sees ">"

/-- Passes the first angle that opens a list of types. -/
def openAngle : Parse Unit := do
  if ← sees "<<" then resumeAt ((← get).here.drop 1)
  else expect "<"

def typeArguments (inner : Inner) : Parse Unit := do
  inTypes do
    openAngle
    let _ ← commaList closesAngles inner.type
  expect ">"

/-- Type arguments of a name, if there are any; angles in them close one list each. -/
def optionalTypeArguments (inner : Inner) : Parse Unit := do
  if !(← breaksBefore) && (← seesOneOf ["<", "<<"]) then withWholeAngles false (typeArguments inner)

def typeParameterModifiers : List String :=
  ["public", "private", "protected", "readonly", "abstract", "const", "override", "in", "out"]

/-- A type parameter with what bounds it and stands for it. Says whether it is bounded. -/
def typeParameter (inner : Inner) : Parse Bool := do
  let _ ← manyWhile (eatsModifier typeParameterModifiers) (pure ())
  let _ ← anyName
  let bounded ← eatsWord "extends"
  if bounded then inner.type
  if ← eats "=" then inner.type
  return bounded

def typeParameters (inner : Inner) : Parse Unit := inTypes do
  expect "<"
  let _ ← commaList closesAngles (typeParameter inner)
  expect ">"

/-- Type parameters that cannot be taken for the tag of an element: the first is bounded or followed
by a comma. -/
def distinctTypeParameters (inner : Inner) : Parse Unit := inTypes do
  expect "<"
  let bounded ← typeParameter inner
  if ← eats "," then
    let _ ← commaList closesAngles (typeParameter inner)
  else if !bounded then stop .identifierExpected
  expect ">"

def optionalTypeParameters (inner : Inner) : Parse Unit := do
  if ← sees "<" then typeParameters inner

def typeBehind (inner : Inner) (mark : String) : Parse Unit := inTypes do
  expect mark
  inner.type

def optionalTypeAnnotation (inner : Inner) : Parse Unit := do
  if ← sees ":" then typeBehind inner ":"

/-- What a function tells about an argument: its name, and the type that it has. -/
def assertion (inner : Inner) (tellsType : Bool) : Parse Unit := do
  let _ ← anyName
  if tellsType then
    bump
    inner.type

/-- What a function returns, behind a mark: a type, or what it tells about an argument. -/
def returnType (inner : Inner) (mark : String) : Parse Unit := inTypes do
  expect mark
  let asserts := (← seesWord "asserts") && (← peeksName)
  if asserts then bump
  let (following, lineBreak) := ← peekToken
  let tellsType := (← seesName) && following.isKeyword "is" && !lineBreak
  if asserts || tellsType then assertion inner tellsType else inner.type

def plainParameter (inner : Inner) : Parse Parameter := do
  let _ ← eatsParameterModifier
  let pattern ← inner.binding
  let _ ← eats "?"
  optionalTypeAnnotation inner
  if ← eats "=" then
    let _ ← inner.assignment
    return .defaulted
  else return .plain pattern

def restParameter (inner : Inner) : Parse Parameter := do
  let _ ← inner.binding
  if ← eats "=" then
    let _ ← inner.assignment
  optionalTypeAnnotation inner
  let _ ← eats "?"
  return .rest

def parameter (inner : Inner) : Parse Parameter := do
  if ← eats "..." then restParameter inner else plainParameter inner

def inParameterList {α : Type} (reading : Parse α) : Parse α :=
  inContext (fun context => { context with inParameters := true }) reading

/-- Parameters up to the closing parenthesis, which is not passed. -/
def parameters (inner : Inner) : Parse (List Parameter) :=
  inParameterList (commaList (sees ")") (parameter inner))

/-- The parameters of a type, which have no defaults. -/
def typeSignature (inner : Inner) : Parse (List Parameter) := do
  expect "("
  let found ← parameters inner
  if found.contains .defaulted then
    unexpected ("an identifier, [ for an array pattern, \x7b for an object patter or ... for a " ++
      "rest pattern")
  expect ")"
  return found

def keyExpected : String :=
  "identifier, string literal, numeric literal or [ for the computed key"

def computedKey (inner : Inner) : Parse Key := do
  let key ← allowingIn (expression inner)
  expect "]"
  return .computed key

def memberKey (inner : Inner) : Parse Key := do
  match ← current with
  | .name spelling | .keyword _ spelling =>
    bump
    return .identifier spelling
  | .text value =>
    bump
    return .text value
  | .number value =>
    bump
    return .number value
  | .bigint =>
    bump
    return .bigint
  | .punctuator "[" =>
    bump
    computedKey inner
  | _ => unexpected keyExpected

/-- The key of a member of a type. A text or a number may be the start of a longer expression. -/
def typeMemberKey (inner : Inner) : Parse Unit := do
  if ← eats "[" then
    let _ ← inner.assignment
    expect "]"
  else if (← current).isText || (← current).isNumber then
    let _ ← inner.creation
  else
    let _ ← memberName

end UtilityClasses.Script
