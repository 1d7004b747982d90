import UtilityClasses.Script.Function

/-!
Operators, conditions and assignments. A missing operand is passed over where an operator follows or
stands before it alone.
-/

namespace UtilityClasses.Script

/-- How tightly operators bind; `as` and `satisfies` bind like comparisons. -/
def precedences : List (String × Nat) := [
  ("??", 1), ("||", 1), ("&&", 2), ("|", 3), ("^", 4), ("&", 5),
  ("==", 6), ("!=", 6), ("===", 6), ("!==", 6),
  ("<", 7), (">", 7), ("<=", 7), (">=", 7), ("<<", 8), (">>", 8), (">>>", 8),
  ("+", 9), ("-", 9), ("*", 10), ("/", 10), ("%", 10), ("**", 11)]

def comparison : Nat := 7

def precedenceOf? (allowIn : Bool) : Token → Option Nat
  | .punctuator spelling => precedences.lookup spelling
  | .keyword "instanceof" _ => some comparison
  | .keyword "in" _ => if allowIn then some comparison else none
  | _ => none

/-- The precedence of the next token, if it is an operator between two operands. -/
def operator? : Parse (Option Nat) := do
  return precedenceOf? (← read).allowIn (← current)

/-- Whether an operator that is no word stands next. -/
def seesOperatorSign : Parse Bool := do
  match ← current with
  | .punctuator spelling => return (precedences.lookup spelling).isSome
  | _ => return false

/-- Reads the next token once more, as it is outside types. -/
def readAgain : Parse Unit := do
  let lineBreak ← breaksBefore
  resumeAt (← get).here
  modify fun cursor => { cursor with lineBreak := lineBreak }

/-- A type behind a word that is next. Where it ends at an angle, a longer operator may begin. -/
def wrapperType (inner : Inner) : Parse Unit := do
  inTypes do
    bump
    inner.type
  if !(← read).inType && (← seesOneOf ["<", ">"]) then readAgain

def typeWrapper? (inner : Inner) : Parse (Option TypeWrapper) := do
  if ← breaksBefore then return none
  else if ← seesWord "as" then
    if ← peeksWord "const" then
      bump
      bump
      return some .asConst
    else
      wrapperType inner
      return some .asType
  else if ← seesWord "satisfies" then
    wrapperType inner
    return some .satisfies
  else return none

def wrapperBehind? (inner : Inner) (least : Nat) : Parse (Option TypeWrapper) := do
  if least < comparison then typeWrapper? inner else return none

/-- Operators that bind more tightly than `least`, with their right operands, behind a left operand.
Powers group from the right, all else from the left. -/
def operatorsFrom (inner : Inner) : Nat → Expr → Nat → Parse Expr
  | 0, left, _ => return left
  | fuel + 1, left, least => do
    match ← wrapperBehind? inner least with
    | some wrapper => operatorsFrom inner fuel (.typed wrapper left) least
    | none =>
      match ← operator? with
      | none => return left
      | some precedence =>
        if precedence ≤ least then return left
        else
          let isPower ← eats "**"
          if isPower && left.isPrefixed then stop .powerOfUnary
          if !isPower then bump
          let operand ← inner.unary
          let right ← operatorsFrom inner fuel operand
            (if isPower then precedence - 1 else precedence)
          operatorsFrom inner fuel (.dynamic .binary [left, right]) least

def operatorsBehind (inner : Inner) (left : Expr) : Parse Expr := do
  operatorsFrom inner ((← get).here.length + 1) left 0

/-- A left operand, which may be missing before an operator. -/
def leftOperand (inner : Inner) : Parse Expr := do
  try inner.unary
  catch cause =>
    refuseUnreadable
    if (← operator?).isSome then return .dynamic .missing [] else throw cause

def binary (inner : Inner) : Parse Expr := do
  let left ← leftOperand inner
  if left.isArrow then return left else operatorsBehind inner left

def prefixWords : List String := ["delete", "void", "typeof"]

/-- The operand of an operator before it, which may be missing. -/
def prefixOperand (inner : Inner) : Parse Expr := do
  try inner.unary
  catch _ =>
    passUnreadable
    return .dynamic .missing []

/-- What stands behind `await`. Where nothing that could be awaited follows, the word is a name outside
asynchronous functions. -/
def awaited (inner : Inner) : Parse Expr := do
  if ← sees "*" then stop .awaitStar
  else if !(← read).inAsync && ((← seesStatementEnd) || (← seesOneOf [")", "]", ","])) then
    return .identifier "await"
  else return .dynamic .awaited [← inner.unary]

def unary (inner : Inner) : Parse Expr := do
  if ← seesOneOf ["++", "--"] then
    bump
    return .dynamic .update [← inner.unary]
  else if (← seesOneOf ["+", "-", "~", "!"]) || (← seesOneWordOf prefixWords) then
    bump
    return .dynamic .unary [← prefixOperand inner]
  else if ← eatsWord "await" then awaited inner
  else
    let operand ← inner.access
    if operand.isArrow || (← breaksBefore) then return operand
    else if ← seesOneOf ["++", "--"] then
      bump
      return .dynamic .update [operand]
    else return operand

def inBranch {α : Type} (expectColon : Bool) (reading : Parse α) : Parse α :=
  inContext
    (fun context => { context with inConditional := true, expectColon := expectColon }) reading

def branches (inner : Inner) (condition : Expr) : Parse Expr := do
  let positive ← inBranch true (allowingIn inner.assignment)
  expect ":"
  let negative ← inBranch false inner.assignment
  return .dynamic .conditional [condition, positive, negative]

def conditional (inner : Inner) : Parse Expr := do
  let condition ← binary inner
  if condition.isArrow then return condition
  else if ← eats "?" then branches inner condition
  else return condition

def compoundAssignments : List String := [
  "+=", "-=", "*=", "/=", "%=", "**=", "<<=", ">>=", ">>>=", "&=", "|=", "^=", "&&=", "||=",
  "??="]

/-- An assignment to an expression that was read, if one follows. -/
def assignmentTo (inner : Inner) (target : Expr) : Parse Expr := do
  if ← sees "=" then
    if target.patternHasMethod true then stop .invalidPattern
    else if target.isTarget then
      bump
      return .dynamic .assignment [target, ← inner.assignment]
    else stop .invalidAssignmentTarget
  else if ← seesOneOf compoundAssignments then
    if target.isSimpleTarget then
      bump
      return .dynamic .assignment [target, ← inner.assignment]
    else stop .invalidAssignmentTarget
  else return target

def markArrowStart : Parse Unit := do
  let token ← current
  let mayStart := token.isPlainWord || token.isKeyword "yield" || token == .punctuator "("
  modify fun cursor => { cursor with arrowStart := mayStart }

def startsExpression (token : Token) : Bool :=
  match token with
  | .punctuator spelling =>
    ["+", "-", "~", "!", "++", "--", "(", "[", "\x7b", "#"].contains spelling
  | .keyword word _ =>
    !isReserved word || ["this", "super", "null", "true", "false", "function", "class", "new",
      "import", "delete", "typeof", "void"].contains word
  | .name _ | .text _ | .number _ | .bigint | .template _ => true
  | .eof | .error _ | .markupText => false

def yieldsValue : Parse Bool := do
  if ← seesStatementEnd then return false
  else return (← seesOneOf ["<", "*", "/", "/="]) || startsExpression (← current)

def yielded (inner : Inner) : Parse Expr := do
  bump
  let context ← read
  if context.inParameters && !context.inFunction then stop .yieldInParameters
  if ← yieldsValue then
    let _ ← eats "*"
    return .dynamic .yielded [← inner.assignment]
  else return .dynamic .yielded []

/-- An assignment, a condition or an arrow function without type parameters. -/
def plainAssignment (inner : Inner) : Parse Expr := do
  if (← seesWord "yield") && (← read).inGenerator then yielded inner
  else
    refuseUnreadable
    markArrowStart
    let target ← conditional inner
    if target.isArrow || target.endsAssignment then return target else assignmentTo inner target

def genericArrow (inner : Inner) : Parse Expr := do
  distinctTypeParameters inner
  let arrow ← plainAssignment inner
  if arrow.isArrow then return arrow else unexpected "("

/-- An expression without a comma at its top. Type parameters before an arrow function are told from
the tag of an element by trying. -/
def assignment (inner : Inner) : Parse Expr := do
  if (← sees "<") && (← peekToken).1.isWord then
    match ← attempt (awaitingNoColon (genericArrow inner)) with
    | some arrow => return arrow
    | none => plainAssignment inner
  else plainAssignment inner

end UtilityClasses.Script
