import UtilityClasses.Script.Signature

/-!
Elements written like markup. Names of tags may hold hyphens, values of attributes know no escapes,
and between tags all is text up to the next tag or brace.

A fault inside a child ends the children of its element, which then misses its closing tag at the
place of the fault.
-/

namespace UtilityClasses.Script

def isMarkupText (char : Char) : Bool := char != '<' && char != '\x7b'

def readMarkup (text : List Char) : Token × List Char :=
  match text with
  | [] => (.eof, [])
  | '<' :: '/' :: rest => (.punctuator "</", rest)
  | '<' :: rest => (.punctuator "<", rest)
  | '\x7b' :: rest => (.punctuator "\x7b", rest)
  | _ => (.markupText, text.dropWhile isMarkupText)

def resumeMarkup (text : List Char) : Parse Unit := do
  let (token, rest) := readMarkup text
  set { token, here := text, rest, lineBreak := false : Cursor }

/-- The rest of a name in markup: parts of identifiers, hyphens, and escapes, which may not follow a
hyphen. -/
def readMarkupName (afterHyphen : Bool) : Nat → List Char → List Char → Found (List Char)
  | 0, read, text => (.ok read.reverse, text)
  | fuel + 1, read, text =>
    match text with
    | '-' :: rest => readMarkupName true fuel ('-' :: read) rest
    | '\\' :: 'u' :: rest =>
      if afterHyphen then (.error .invalidUnicodeEscape, text)
      else match unicodeEscape rest with
        | (.ok units, after) =>
          readMarkupName false fuel ((spellInName units).reverse ++ read) after
        | (.error cause, after) => (.error cause, after)
    | char :: rest =>
      if Text.isIdentifierPart char then readMarkupName false fuel (char :: read) rest
      else (.ok read.reverse, text)
    | [] => (.ok read.reverse, [])

/-- Reads the word that is next as a name in markup, which must not begin with an escape. -/
def markupNameHere : Parse String := do
  let here := (← get).here
  let (found, rest) := readMarkupName true (here.length + 1) [] here
  resumeAt rest
  match found with
  | .ok name => return String.ofList name
  | .error cause => throw cause

def markupWord : Parse String := do
  if (← current).isWord then markupNameHere else unexpected "jsx identifier"

/-- A word, or two with a colon between them. -/
def attributeName : Parse Unit := do
  let _ ← markupWord
  if ← eats ":" then
    let _ ← markupWord

/-- The name of a tag, which may stand in a name space or be a member of a name. -/
def tagName : Parse String := do
  let first ← markupWord
  let name ← if ← eats ":" then pure (first ++ ":" ++ (← markupWord)) else pure first
  let members ← manyWhile (eats ".") markupWord
  return ".".intercalate (name :: members)

def seesTagEnd : Parse Bool := do
  let cursor ← get
  match cursor.token with
  | .punctuator _ => return cursor.here.head? == some '>'
  | _ => return false

def endTag (intoMarkup : Bool) : Parse Unit := do
  if !(← seesTagEnd) then missing ">"
  let text := (← get).here.drop 1
  if intoMarkup then resumeMarkup text else resumeAt text

/-- Where the script ends behind a quoted value, the value stays the next token. -/
def attributeText (quote : Char) (text : List Char) : Parse Unit := do
  match text.dropWhile (· != quote) with
  | [] => resumeAt []
  | _ :: after =>
    resumeAt after
    if ← seesEnd then modify fun cursor => { cursor with token := .text none }

def attributeValue (inner : Inner) : Parse Unit := do
  match (← get).here with
  | '\x7b' :: _ =>
    bump
    if ← eats "\x7d" then stop .emptyAttribute
    let _ ← allowingIn (expression inner)
    expect "\x7d"
  | '<' :: _ => inner.element false
  | '"' :: rest => attributeText '"' rest
  | '\'' :: rest => attributeText '\'' rest
  | _ => stop .invalidAttributeValue

def tagAttribute (inner : Inner) : Parse Unit := do
  if ← eats "\x7b" then
    expect "..."
    let _ ← inner.assignment
    expect "\x7d"
  else
    attributeName
    if ← eats "=" then attributeValue inner

/-- The closing tag of an element, from its `</` on. -/
def closingTag (name : String) (intoMarkup : Bool) : Parse Unit := do
  expect "</"
  if name.isEmpty then endTag intoMarkup
  else
    let found ← tagName
    endTag intoMarkup
    if found ≠ name then stop (.closingTagExpected name)

/-- An expression between braces among the children of an element. It may be left out. -/
def childExpression (inner : Inner) : Parse Unit := do
  bump
  if !(← sees "\x7d") then
    let _ ← eats "..."
    let _ ← allowingIn (expression inner)
  if !(← sees "\x7d") then missing "\x7d"
  resumeMarkup (← get).rest

/-- Reads a child, and says whether there was one. -/
def child (inner : Inner) : Parse Bool := do
  match ← current with
  | .markupText => resumeMarkup (← get).rest
  | .punctuator "\x7b" => childExpression inner
  | .punctuator "<" => inner.element true
  | _ => return false
  return true

def children (inner : Inner) : Parse Unit := do
  let _ ← manyWhile (try child inner catch _ => return false) (pure ())

def elementRest (inner : Inner) (isChild : Bool) : Parse Unit := do
  let name ← if ← seesTagEnd then pure "" else tagName
  if !name.isEmpty then
    if ← seesOneOf ["<", "<<"] then typeArguments inner
    let _ ← manyWhile (do return !(← sees "/") && !(← seesTagEnd)) (tagAttribute inner)
  if ← eats "/" then endTag isChild
  else
    endTag true
    children inner
    closingTag name isChild

/-- An element, whose end the text between tags or the script follows. -/
def element (inner : Inner) (isChild : Bool) : Parse Unit := withWholeAngles false do
  bump
  elementRest inner isChild

/-- Whether an angle opens a tag: one with a name or an empty one. -/
def startsTag : Parse Bool := do
  return (← sees "<") && ((← peekToken).1.isWord || (← peeks ">"))

def markup (inner : Inner) : Parse Expr := do
  inner.element false
  return .dynamic .element []

end UtilityClasses.Script
