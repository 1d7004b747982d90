import UtilityClasses.Script.Access
import UtilityClasses.Script.Function

/-!
Classes. Words such as `static` or `get` modify a member when a name may follow them, and are names
of members otherwise. The code of a class is strict.
-/

namespace UtilityClasses.Script

/-- What the modifiers of a member leave open for what follows. -/
structure MemberMark where
  isStatic : Bool := false
  isReadonly : Bool := false
  isAbstract : Bool := false
  isOverride : Bool := false
  hasAccess : Bool := false
  deriving DecidableEq, Repr, Inhabited

def seesParameters : Parse Bool := seesOneOf ["(", "<"]

/-- Whether a property goes on or ends here; at the end of a line only where that is asked for. -/
def continuesProperty (mayEndSilently : Bool) : Parse Bool := do
  if ← seesOneOf ["!", ":", "=", "\x7d"] then return true
  else if mayEndSilently then seesStatementEnd
  else sees ";"

def endsKey (mayEndSilently : Bool) : Parse Bool := do
  return (← seesParameters) || (← continuesProperty mayEndSilently) || (← sees "?")

def classKey (inner : Inner) : Parse Key := do
  if ← sees "#" then
    let _ ← memberName
    return .computed (.dynamic .privateName [])
  else memberKey inner

def isConstructor : Key → Bool
  | .identifier name => name == "constructor"
  | .text value => value == some "constructor"
  | _ => false

def isNamed (names : List String) : Key → Bool
  | .identifier name => names.contains name
  | _ => false

def propertyRest (inner : Inner) (key : Key) (isOptional : Bool) : Parse Unit := do
  if isConstructor key then stop .constructorField
  if !isOptional then
    let _ ← eats "!"
  optionalTypeAnnotation inner
  if ← eats "=" then
    let _ ← allowingIn inner.assignment
  if !(← eatsSemicolon) then passUnreadable

def methodRest (inner : Inner) (asynchronous generator : Bool) : Parse Unit := do
  let _ ← functionRest inner asynchronous generator

def accessModifiers : List String := ["public", "protected", "private", "in", "out"]

/-- A parameter of a constructor. One with a modifier is a property too and must have a name. -/
def constructorParameter (inner : Inner) : Parse Unit := do
  if ← eats "..." then
    let _ ← inner.binding
    optionalTypeAnnotation inner
  else
    let hasAccess ← eatsModifier accessModifiers
    let isOverride ← eatsModifier ["override"]
    let isReadonly ← eatsModifier ["readonly"]
    let found ← plainParameter inner
    if (hasAccess || isOverride || isReadonly) && found == .plain .parts then
      stop .patternParameterProperty

def constructorRest (inner : Inner) : Parse Unit := do
  optionalTypeParameters inner
  expect "("
  let _ ← commaList (sees ")") (constructorParameter inner)
  expect ")"
  if ← sees ":" then typeBehind inner ":"
  if !(← lacksBody) then inBody false false (functionBlock inner)

/-- A member whose key is a word that might have been a modifier, if it ends there. -/
def wordMember? (inner : Inner) (word : String) (mayEndSilently : Bool) : Parse Bool := do
  if ← seesParameters then
    methodRest inner false false
    return true
  else if ← endsKey mayEndSilently then
    let isOptional ← eats "?"
    propertyRest inner (.identifier word) isOptional
    return true
  else return false

def memberModifiers : Nat → MemberMark → Parse MemberMark
  | 0, mark => return mark
  | fuel + 1, mark => do
    match ← modifier? ["abstract", "readonly", "override", "static"] true with
    | some "abstract" => memberModifiers fuel { mark with isAbstract := true }
    | some "readonly" => memberModifiers fuel { mark with isReadonly := true }
    | some "override" => memberModifiers fuel { mark with isOverride := true }
    | some _ => memberModifiers fuel { mark with isStatic := true }
    | none => return mark

def staticBlock (inner : Inner) : Parse Unit :=
  inContext (fun context => { context with inStaticBlock := true }) (block inner)

def keyedMethod (inner : Inner) (mark : MemberMark) (key : Key) : Parse Unit := do
  if mark.isReadonly then stop .readonlyMethod
  if isConstructor key then constructorRest inner else methodRest inner false false

def keyedRest (inner : Inner) (key : Key) (isOptional : Bool) : Parse Unit := do
  let startsGenerator := (← breaksBefore) && (← sees "*")
  let isAccessor := isNamed ["get", "set"] key && !(← continuesProperty false) && !startsGenerator
  if !isAccessor && (← continuesProperty true) then propertyRest inner key isOptional
  else if isNamed ["async"] key && !(← breaksBefore) then
    let _ ← eatsModifier ["override"]
    let generator ← eats "*"
    if isConstructor (← classKey inner) then stop .asyncConstructor
    if !isOptional then
      let _ ← eats "?"
    methodRest inner true generator
  else if isAccessor then
    let _ ← classKey inner
    methodRest inner false false
  else unexpected "* for generator, private key, identifier or async"

def markedMember (inner : Inner) (mark : MemberMark) : Parse Unit := do
  if mark.isStatic && (← sees "\x7b") then staticBlock inner
  else if (← seesWord "static") && (← peeks "\x7b") then
    bump
    staticBlock inner
  else if !mark.isAbstract && !mark.isOverride && !mark.hasAccess && (← sees "[") &&
      (← startsIndexSignature) then
    indexSignature inner
  else if ← eats "*" then
    let _ ← classKey inner
    methodRest inner false true
  else
    let key ←
      if mark.isReadonly && (← seesOneOf ["!", ":"]) then pure (Key.identifier "readonly")
      else classKey inner
    let isOptional ← eats "?"
    if ← seesParameters then keyedMethod inner mark key else keyedRest inner key isOptional

def staticMember (inner : Inner) (hasAccess : Bool) : Parse Unit := do
  let isAccessor ← eatsWord "accessor"
  let isStatic ← eatsWord "static"
  let isAccessor ← if isAccessor then pure true else eatsWord "accessor"
  if isAccessor && (← wordMember? inner "accessor" false) then return ()
  else if isStatic && (← wordMember? inner "static" false) then return ()
  else
    let mark ← memberModifiers ((← get).here.length + 1) { isStatic, hasAccess }
    markedMember inner mark

def classMember (inner : Inner) : Parse Unit := do
  let isDeclared ← eatsWord "declare"
  let hasAccess ← eatsModifier accessModifiers
  let isDeclared ← if isDeclared then pure true else eatsWord "declare"
  if isDeclared && (← wordMember? inner "declare" true) then return ()
  else staticMember inner hasAccess

def classBody (inner : Inner) : Parse Unit := do
  expect "\x7b"
  let _ ← manyWhile (do return !(← sees "\x7d")) (do
    if !(← eats ";") then classMember inner)
  expect "\x7d"

def parent (inner : Inner) : Parse Unit := do
  let _ ← inner.access
  if ← sees "<" then typeArguments inner

/-- An interface that a class or an interface takes over. -/
def heritage (inner : Inner) : Parse Unit := do
  let name ← anyName
  let _ ← steps inner .names (.identifier name)
  if ← sees "<" then typeArguments inner

def endsHeritage : Parse Bool := do
  return (← sees "\x7b") || (← seesOneWordOf ["implements", "extends"])

def heritageList (inner : Inner) : Parse Unit := do
  let _ ← commaList endsHeritage (heritage inner)

/-- What a class is made from, its interfaces and its members. Repeated clauses are passed over. -/
def classHeritage (inner : Inner) : Parse Unit := do
  if ← eatsWord "extends" then
    parent inner
    if ← eats "," then heritageList inner
  if ← eatsWord "extends" then parent inner
  if ← eatsWord "implements" then heritageList inner
  if ← eatsWord "implements" then heritageList inner
  if ← eatsWord "extends" then parent inner

def classRest (inner : Inner) (name : Parse Unit) : Parse Unit :=
  inContext (fun context => { context with strict := true }) do
    name
    optionalTypeParameters inner
    classHeritage inner
    classBody inner

def classExpression (inner : Inner) : Parse Expr := do
  bump
  classRest inner optionalName
  return .dynamic .classBody []

end UtilityClasses.Script
