import UtilityClasses.Script.Expr
import UtilityClasses.Script.Token

/-!
Reading tokens one after the other. A `Parse` reads from a cursor, in a context, and stops at the
first fault; the cursor is kept where the fault was found, so that a reader that passes over a fault
goes on from there. `attempt` goes back instead.
-/

namespace UtilityClasses.Script

/-- The token that is next, the text from it on and the text behind it. -/
structure Cursor where
  token : Token
  here : List Char
  rest : List Char
  lineBreak : Bool
  /-- Whether nothing has been read yet of an expression that may be an arrow function. -/
  arrowStart : Bool := false
  /-- Whether the token can never be passed. -/
  stuck : Bool := false
  deriving Repr, Inhabited

/-- The cursor at the first token of a text, which may stand behind a line end. -/
def Cursor.behind (lineBreak singleAngles : Bool) (text : List Char) : Cursor :=
  let (here, lineBreak) := skipGaps lineBreak text
  let (token, rest) := readToken singleAngles here
  { token, here, rest, lineBreak }

/-- The start of a script is the start of a line. There a number sign and an exclamation mark make a
token of their own. -/
def Cursor.start (text : List Char) : Cursor :=
  match text with
  | '#' :: '!' :: rest => { token := .punctuator "#!", here := text, rest, lineBreak := true }
  | _ => Cursor.behind true false text

structure Context where
  inGenerator : Bool := false
  inAsync : Bool := false
  /-- Whether `in` is an operator. -/
  allowIn : Bool := false
  inConditional : Bool := false
  /-- Whether a colon of a conditional expression is still to come. -/
  expectColon : Bool := false
  /-- Whether more words are reserved. -/
  strict : Bool := false
  inStaticBlock : Bool := false
  inParameters : Bool := false
  inFunction : Bool := false
  /-- Whether what is declared exists elsewhere. -/
  ambient : Bool := false
  inType : Bool := false
  /-- Whether angles are read as operators also in types. -/
  wholeAngles : Bool := false
  /-- Whether a type is not to be chosen by a condition. -/
  plainTypes : Bool := false
  inLoopHead : Bool := false
  deriving DecidableEq, Repr, Inhabited

def Context.outermost : Context := {}

namespace Context

/-- Whether each angle of a run is a token of its own. -/
def singleAngles (context : Context) : Bool := context.inType && !context.wholeAngles

def strictWords : List String :=
  ["implements", "interface", "let", "package", "private", "protected", "public", "static"]

def reserves (context : Context) (word : String) : Bool :=
  isReserved word ||
    (context.strict && strictWords.contains word) ||
    (word == "await" && (context.inAsync || context.inStaticBlock || context.strict)) ||
    (word == "yield" && (context.inGenerator || context.strict))

def isIdentifier (context : Context) : Token → Bool
  | .name _ => true
  | .keyword word _ => !context.reserves word
  | _ => false

end Context

abbrev Parse : Type → Type := ReaderT Context (EStateM SyntaxError Cursor)

def inContext {α : Type} (change : Context → Context) (reading : Parse α) : Parse α :=
  withReader change reading

def allowingIn {α : Type} (reading : Parse α) : Parse α :=
  inContext (fun context => { context with allowIn := true }) reading

/-- Inside brackets no colon of a conditional expression is awaited. -/
def awaitingNoColon {α : Type} (reading : Parse α) : Parse α :=
  inContext (fun context => { context with expectColon := false }) reading

def inTypes {α : Type} (reading : Parse α) : Parse α :=
  inContext (fun context => { context with inType := true }) reading

/-- Whether runs of angles are operators in the types of a reading. -/
def withWholeAngles {α : Type} (whole : Bool) (reading : Parse α) : Parse α :=
  inContext (fun context => { context with wholeAngles := whole }) reading

def current : Parse Token := do return (← get).token

def breaksBefore : Parse Bool := do return (← get).lineBreak

def peekToken : Parse (Token × Bool) := do
  let following := Cursor.behind false (← read).singleAngles (← get).rest
  return (following.token, following.lineBreak)

def resumeAt (text : List Char) : Parse Unit := do
  set (Cursor.behind false (← read).singleAngles text)

def bump : Parse Unit := do
  let cursor ← get
  if !cursor.stuck then resumeAt cursor.rest

/-- Passes a token that could not be read. A fault that is found at such a token leaves it behind. -/
def passUnreadable : Parse Unit := do
  match ← current with
  | .error _ => bump
  | _ => return ()

def stop {α : Type} (cause : SyntaxError) : Parse α := do
  passUnreadable
  throw cause

/-- Stops at a token that could not be read, for the reason why. -/
def refuseUnreadable : Parse Unit := do
  match ← current with
  | .error cause => stop cause
  | _ => return ()

def unexpected {α : Type} (wanted : String) : Parse α := do
  stop (.unexpectedToken (← current).label wanted)

def missing {α : Type} (wanted : String) : Parse α := do
  stop (.expected wanted (← current).label)

def sees (spelling : String) : Parse Bool := do
  return (← current) == .punctuator spelling

def seesWord (word : String) : Parse Bool := do
  return (← current).isKeyword word

def seesEnd : Parse Bool := do return (← current) == .eof

def seesOneOf (spellings : List String) : Parse Bool := do
  match ← current with
  | .punctuator spelling => return spellings.contains spelling
  | _ => return false

def seesOneWordOf (words : List String) : Parse Bool := do
  return (← current).isOneOfKeywords words

def eats (spelling : String) : Parse Bool := do
  if ← sees spelling then
    bump
    return true
  else return false

def eatsWord (word : String) : Parse Bool := do
  if ← seesWord word then
    bump
    return true
  else return false

def expect (spelling : String) : Parse Unit := do
  if !(← eats spelling) then missing spelling

def expectWord (word : String) : Parse Unit := do
  if !(← eatsWord word) then missing word

def peeks (spelling : String) : Parse Bool := do
  return (← peekToken).1 == .punctuator spelling

def peeksWord (word : String) : Parse Bool := do
  return (← peekToken).1.isKeyword word

def seesWordBefore (word : String) (follows : Token → Bool) : Parse Bool := do
  if ← seesWord word then
    let (following, lineBreak) := ← peekToken
    return !lineBreak && follows following
  else return false

/-- Tries a reading and goes back to where it began when it fails. -/
def attempt {α : Type} (reading : Parse α) : Parse (Option α) := do
  let start ← get
  try
    return some (← reading)
  catch _ =>
    set start
    return none

/-- Whether a reading succeeds here; nothing is read. -/
def looksLike (reading : Parse Bool) : Parse Bool := do
  let start ← get
  let answer ← attempt reading
  set start
  return answer.getD false

def repeatWhile {α : Type} (more : Parse Bool) (item : Parse α) : Nat → Parse (List α)
  | 0 => return []
  | fuel + 1 => do
    if ← more then
      let first ← item
      return first :: (← repeatWhile more item fuel)
    else return []

def manyWhile {α : Type} (more : Parse Bool) (item : Parse α) : Parse (List α) := do
  repeatWhile more item ((← get).here.length + 1)

/-- Items between commas up to a closing bracket, which is not passed. -/
def commaList {α : Type} (closes : Parse Bool) (item : Parse α) : Parse (List α) :=
  manyWhile (do return !(← closes)) (do
    let found ← item
    if !(← closes) then expect ","
    return found)

def seesStatementEnd : Parse Bool := do
  return (← seesOneOf [";", "\x7d"]) || (← seesEnd) || (← breaksBefore)

/-- Whether a statement may end here, by a semicolon, which is passed, or without one. -/
def eatsSemicolon : Parse Bool := do
  if ← eats ";" then return true else seesStatementEnd

def expectSemicolon : Parse Unit := do
  if !(← eatsSemicolon) then missing ";"

/-- Where a statement stands: alone, as behind a condition; in a list, where it may declare something; or
in a name space, which it may also export from or import into. -/
inductive StatementPlace where
  | alone
  | listed
  | inNamespace
  deriving DecidableEq, Repr

inductive Goal where
  | assignment
  | unary
  | access
  | creation
  | element (isChild : Bool)
  | type
  | plainType
  | binding
  | statement (place : StatementPlace)
  deriving DecidableEq, Repr

/-- What a pattern binds: one name or several parts. -/
inductive Pattern where
  | name
  | parts
  deriving DecidableEq, Repr, Inhabited

abbrev Goal.Result : Goal → Type
  | .assignment | .unary | .access | .creation => Expr
  | .binding => Pattern
  | .element _ | .type | .plainType | .statement _ => Unit

/-- Readers for the parts of a script that parts of themselves need. -/
abbrev Inner : Type := (goal : Goal) → Parse goal.Result

namespace Inner

def assignment (inner : Inner) : Parse Expr := inner .assignment
def unary (inner : Inner) : Parse Expr := inner .unary
def access (inner : Inner) : Parse Expr := inner .access
def creation (inner : Inner) : Parse Expr := inner .creation
def element (inner : Inner) (isChild : Bool) : Parse Unit := inner (.element isChild)
def type (inner : Inner) : Parse Unit := inner .type
def plainType (inner : Inner) : Parse Unit := inner .plainType
def binding (inner : Inner) : Parse Pattern := inner .binding

def statement (inner : Inner) (place : StatementPlace) : Parse Unit := inner (.statement place)

end Inner

def expression (inner : Inner) : Parse Expr := do
  let first ← inner.assignment
  if ← sees "," then
    let others ← manyWhile (eats ",") inner.assignment
    return .sequence first others
  else return first

end UtilityClasses.Script
