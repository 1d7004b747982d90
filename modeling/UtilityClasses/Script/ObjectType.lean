import UtilityClasses.Script.Signature

/-!
Types between braces: the members of objects, and the types that map keys.
-/

namespace UtilityClasses.Script

/-- Members of a type end with a comma or like statements. -/
def endTypeMember : Parse Unit := do
  if !(← eats ",") then expectSemicolon

/-- Whether a bracket opens a name with its type. -/
def startsIndexSignature : Parse Bool := looksLike do
  expect "["
  if ← seesName then
    bump
    seesOneOf [":", ","]
  else return false

/-- The type of an index: a name and a type between brackets. A comma may stand for the colon. -/
def indexSignature (inner : Inner) : Parse Unit := do
  expect "["
  let _ ← anyName
  if !(← eats ",") then expect ":"
  inTypes inner.type
  expect "]"
  optionalTypeAnnotation inner
  endTypeMember

def signature (inner : Inner) : Parse Unit := do
  optionalTypeParameters inner
  let _ ← typeSignature inner
  if ← sees ":" then returnType inner ":"
  endTypeMember

def propertySignature (inner : Inner) (isReadonly : Bool) : Parse Unit := do
  typeMemberKey inner
  let _ ← eats "?"
  if ← seesOneOf ["(", "<"] then
    if isReadonly then stop .readonlyMethod
    signature inner
  else
    optionalTypeAnnotation inner
    endTypeMember

def accessorSignature (inner : Inner) (isReadonly : Bool) : Parse Unit := do
  if isReadonly then stop .readonlyAccessor
  if ← eatsWord "get" then
    typeMemberKey inner
    expect "("
    expect ")"
    optionalTypeAnnotation inner
    endTypeMember
  else
    expectWord "set"
    typeMemberKey inner
    if (← typeSignature inner).isEmpty then stop .accessorParameter
    endTypeMember

def keyedMember (inner : Inner) (isReadonly : Bool) : Parse Unit := do
  match ← attempt (accessorSignature inner isReadonly) with
  | some _ => return ()
  | none => propertySignature inner isReadonly

def typeMember (inner : Inner) : Parse Unit := do
  if ← seesOneOf ["(", "<"] then signature inner
  else if (← seesWord "new") && ((← peeks "(") || (← peeks "<")) then
    bump
    signature inner
  else
    let isReadonly ← eatsModifier ["readonly"]
    if (← sees "[") && (← startsIndexSignature) then indexSignature inner
    else keyedMember inner isReadonly

def objectType (inner : Inner) : Parse Unit := do
  expect "\x7b"
  let _ ← manyWhile (do return !(← sees "\x7d")) (typeMember inner)
  expect "\x7d"

def startsMappedType : Parse Bool := looksLike do
  bump
  if ← seesOneOf ["+", "-"] then
    bump
    seesWord "readonly"
  else
    let _ ← eatsWord "readonly"
    expect "["
    if ← seesName then
      bump
      seesWord "in"
    else return false

/-- Passes a mark that a mapped type may add or remove. -/
def mappedMark (eatsMark : Parse Bool) (expectMark : Parse Unit) : Parse Unit := do
  if ← seesOneOf ["+", "-"] then
    bump
    expectMark
  else
    let _ ← eatsMark

def mappedType (inner : Inner) : Parse Unit := do
  expect "\x7b"
  mappedMark (eatsWord "readonly") (expectWord "readonly")
  expect "["
  let _ ← anyName
  if !(← eatsWord "in") then unexpected "in"
  inner.type
  if ← eatsWord "as" then inner.type
  expect "]"
  mappedMark (eats "?") (expect "?")
  optionalTypeAnnotation inner
  expectSemicolon
  expect "\x7d"

end UtilityClasses.Script
