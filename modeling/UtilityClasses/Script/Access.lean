import UtilityClasses.Script.Collection
import UtilityClasses.Script.Markup
import UtilityClasses.Script.Operator

/-!
Members, calls and creations: what follows a primary expression.

A creation takes the first arguments behind it, so the callee is read without calls. Type arguments
are told from comparisons by trying.
-/

namespace UtilityClasses.Script

inductive Base where
  | value (callee : Expr)
  | parent
  | module
  deriving Repr, Inhabited

structure Reach where
  calls : Bool
  indexes : Bool
  deriving DecidableEq, Repr, Inhabited

def Reach.all : Reach := ⟨true, true⟩

def Reach.members : Reach := ⟨false, true⟩

def Reach.names : Reach := ⟨false, false⟩

/-- Tokens that begin an operand, where a type argument list would have no end before them. -/
def startsOperand (token : Token) (following : Token) (isIdentifier : Bool) : Bool :=
  match token with
  | .punctuator spelling => spelling == "(" || spelling == "["
  | .keyword "import" _ =>
    ["(", "<", "."].any fun spelling => following == .punctuator spelling
  | .keyword word _ =>
    isIdentifier ||
      ["this", "super", "null", "true", "false", "function", "class", "new"].contains word
  | .name _ | .text _ | .number _ | .bigint | .template _ => true
  | .eof | .error _ | .markupText => false

def endsTypeArguments : Parse Bool := do
  let token ← current
  if token.isTemplate || (← seesOneOf ["<", ">", "+", "-", "("]) then return false
  else if (← breaksBefore) || (precedenceOf? true token).isSome then return true
  else return !startsOperand token (← peekToken).1 (← seesName)

def call (inner : Inner) (optional : Bool) (callee : Expr) : Parse Expr := do
  let items ← arguments inner
  let form : Form := if optional || callee.isChain then .optionalChain else .call
  return .dynamic form (callee :: items)

/-- What type arguments in angle brackets make of an expression, and whether more may follow. -/
def typeArgumentsBehind (inner : Inner) (reach : Reach) (callee : Expr) : Parse (Expr × Bool) := do
  typeArguments inner
  match ← current with
  | .template part =>
    let _ ← template inner part true
    return (.dynamic .taggedTemplate [callee], true)
  | .punctuator "(" =>
    if reach.calls then return (← call inner false callee, true) else unexpected "`"
  | .punctuator "=" | .keyword "as" _ | .keyword "satisfies" _ =>
    return (.dynamic .instantiation [callee], false)
  | _ =>
    if ← endsTypeArguments then return (.dynamic .instantiation [callee], true)
    else unexpected "( or `"

def memberOf (optional : Bool) (noCalls : Bool) (operands : List Expr) : Base → Parse Expr
  | .value callee =>
    let form : Form := if optional || callee.isChain then .optionalChain else .member
    return .dynamic form (callee :: operands)
  | .parent =>
    if !optional then return .dynamic .superMember operands
    else stop (if noCalls then .invalidSuperCall else .invalidSuper)
  | .module => stop .importNotAllowed

def index (inner : Inner) : Parse Expr := do
  let found ← allowingIn (expression inner)
  expect "]"
  return found

def namedStep (optional : Bool) (reach : Reach) (base : Base) : Parse Expr := do
  let isPrivate ← sees "#"
  let _ ← memberName
  match base with
  | .parent =>
    if isPrivate && !optional then stop .invalidSuperCall
    else memberOf optional (!reach.calls) [] base
  | _ => memberOf optional (!reach.calls) [] base

/-- A call of a module loads it, with one or two arguments. -/
def moduleCall (inner : Inner) : Parse Expr := do
  let items ← arguments inner
  if items.isEmpty || 2 < items.length then stop .importArguments
  return .dynamic .call items

def optionalCall (inner : Inner) (reach : Reach) (base : Base) : Parse Expr := do
  if ← sees "<" then typeArguments inner
  match base with
  | .value callee => call inner true callee
  | _ =>
    let items ← arguments inner
    memberOf true (!reach.calls) items base

def optionalStep (inner : Inner) (reach : Reach) (base : Base) : Parse Expr := do
  if reach.indexes && (← sees "[") then
    bump
    memberOf true (!reach.calls) [← index inner] base
  else if ← seesOneOf ["(", "<"] then optionalCall inner reach base
  else namedStep true reach base

def plainCall (inner : Inner) : Base → Parse Expr
  | .value callee => call inner false callee
  | .parent => do return .dynamic .call (← arguments inner)
  | .module => moduleCall inner

def seesOptionalMark : Parse Bool := do return (← sees "?") && (← peeks ".")

def isModule : Base → Bool
  | .module => true
  | _ => false

/-- One step on from a base: the expression it makes. None if nothing belongs to the base. -/
def step? (inner : Inner) (reach : Reach) (base : Base) : Parse (Option Expr) := do
  if ← seesOptionalMark then
    bump
    bump
    return some (← optionalStep inner reach base)
  else if reach.indexes && (← sees "[") then
    bump
    return some (← memberOf false (!reach.calls) [← index inner] base)
  else if (reach.calls || isModule base) && (← sees "(") then
    return some (← plainCall inner base)
  else if ← eats "." then return some (← namedStep false reach base)
  else return none

/-- Whether an exclamation mark on the same line marks an expression as present. -/
def seesPresenceMark : Parse Bool := do return (← sees "!") && !(← breaksBefore)

def genericStep? (inner : Inner) (reach : Reach) (callee : Expr) : Parse (Option (Expr × Bool)) := do
  if ← sees "<" then
    withWholeAngles true (attempt (typeArgumentsBehind inner reach callee))
  else return none

/-- One step on from an expression, which may also be marked as present, take type arguments or tag a
template; and whether more may follow. -/
def stepOf? (inner : Inner) (reach : Reach) (callee : Expr) : Parse (Option (Expr × Bool)) := do
  if ← seesPresenceMark then
    bump
    return some (.typed .nonNull callee, true)
  else match ← genericStep? inner reach callee with
    | some step => return some step
    | none =>
      match ← step? inner reach (.value callee) with
      | some expr => return some (expr, true)
      | none =>
        match ← current with
        | .template part =>
          let _ ← template inner part true
          return some (.dynamic .taggedTemplate [callee], true)
        | _ => return none

def stepsFrom (inner : Inner) (reach : Reach) : Nat → Expr → Parse Expr
  | 0, callee => return callee
  | fuel + 1, callee => do
    match ← stepOf? inner reach callee with
    | none => return callee
    | some (next, true) => stepsFrom inner reach fuel next
    | some (next, false) => return next

def steps (inner : Inner) (reach : Reach) (callee : Expr) : Parse Expr := do
  stepsFrom inner reach ((← get).here.length + 1) callee

def parentSteps (inner : Inner) (reach : Reach) : Parse Expr := do
  if ← seesPresenceMark then
    bump
    stop (.nonNullNotAllowed "super")
  match ← step? inner reach .parent with
  | some callee => steps inner reach callee
  | none => stop (if reach.calls then .invalidSuper else .invalidSuperCall)

def moduleSteps (inner : Inner) (reach : Reach) : Parse Expr := do
  if ← seesPresenceMark then
    bump
    stop (.nonNullNotAllowed "import")
  match ← step? inner reach .module with
  | some callee => steps inner reach callee
  | none => stop .importNotAllowed

/-- What follows `import`: what is known of this module, or a call that loads another one. -/
def moduleExpression (inner : Inner) (reach : Reach) : Parse Expr := do
  if ← eats "." then
    let name ← anyName
    if name == "meta" then steps inner reach (.dynamic .metaProperty [])
    else if name == "defer" || name == "source" then moduleSteps inner reach
    else unexpected "meta"
  else moduleSteps inner reach

def argumentTypes (inner : Inner) : Parse Unit := do
  typeArguments inner
  if !(← sees "(") then missing "("

def optionalArgumentTypes (inner : Inner) : Parse Unit := do
  if ← seesOneOf ["<", "<<"] then
    let _ ← attempt (argumentTypes inner)

def newExpression (inner : Inner) : Parse Expr := do
  if ← eats "." then
    if ← eatsWord "target" then steps inner .members (.dynamic .metaProperty [])
    else unexpected "target"
  else
    let callee ← inner.creation
    if callee.isArrow then return callee
    else if callee matches .dynamic .optionalChain _ then stop .optionalChainAfterNew
    else
      withWholeAngles false (optionalArgumentTypes inner)
      if ← sees "(" then
        let items ← arguments inner
        steps inner .members (.dynamic (.creation true) (callee :: items))
      else return .dynamic (.creation false) [callee]

/-- An expression that a creation may take as its callee: one without calls. -/
def creation (inner : Inner) (primary : Parse Expr) : Parse Expr := withWholeAngles true do
  if ← eatsWord "new" then newExpression inner
  else if ← eatsWord "super" then parentSteps inner .members
  else if ← eatsWord "import" then moduleExpression inner .members
  else
    let callee ← primary
    if callee.isArrow then return callee else steps inner .members callee

def isBareCreation : Expr → Bool
  | .dynamic (.creation hasArguments) _ => !hasArguments
  | _ => false

def access (inner : Inner) : Parse Expr := do
  if ← startsTag then markup inner
  else if ← eatsWord "super" then parentSteps inner .all
  else if ← eatsWord "import" then moduleExpression inner .all
  else
    let callee ← inner.creation
    if callee.isArrow then return callee
    else
      optionalArgumentTypes inner
      if isBareCreation callee then return callee
      else if ← sees "(" then steps inner .all (← call inner false callee)
      else return callee

end UtilityClasses.Script
