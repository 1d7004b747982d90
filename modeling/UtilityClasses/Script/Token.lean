import UtilityClasses.Script.Literal

/-!
The tokens of scripts. `readToken` reads the token that a text begins with after blanks and comments;
it takes the longest one. Slashes are read as operators and template text only up to its first
interpolation: where a regular expression or the rest of a template may stand is known only to the
reader of expressions.
-/

namespace UtilityClasses.Script

open UtilityClasses.Decimal (Double)

/-- A keyword has a meaning in some places; where it is a name, it is spelled as it was written. -/
inductive Token where
  | eof
  | error (cause : SyntaxError)
  | name (spelling : String)
  | keyword (word spelling : String)
  | punctuator (spelling : String)
  | text (value : Option String)
  | number (value : Double)
  | bigint
  | template (part : TemplatePart)
  | markupText
  deriving DecidableEq, Repr, Inhabited

def reservedWords : List String := [
  "break", "case", "catch", "class", "const", "continue", "debugger", "default", "delete", "do",
  "else", "enum", "export", "extends", "false", "finally", "for", "function", "if", "import", "in",
  "instanceof", "new", "null", "return", "super", "switch", "this", "throw", "true", "try",
  "typeof", "var", "void", "while", "with"]

/-- Words with a meaning in some places and identifiers elsewhere. -/
def contextualWords : List String := [
  "abstract", "accessor", "any", "as", "asserts", "assert", "async", "await", "bigint", "boolean",
  "declare", "from", "get", "global", "implements", "infer", "interface", "intrinsic", "is",
  "keyof", "let", "meta", "namespace", "never", "number", "object", "of", "out", "override",
  "package", "private", "protected", "public", "readonly", "require", "satisfies", "set", "static",
  "string", "symbol", "target", "type", "undefined", "unique", "unknown", "using", "yield"]

def isReserved (word : String) : Bool := reservedWords.contains word

def isKeyword (word : String) : Bool := isReserved word || contextualWords.contains word

namespace Token

def label : Token → String
  | eof => "<eof>"
  | error _ => "<lexing error>"
  | name _ => "ident"
  | keyword word _ => word
  | punctuator spelling => spelling
  | text _ => "string literal"
  | number _ => "numeric literal"
  | bigint => "bigint literal"
  | template part => if part.ends then "no substitution template literal" else "template head"
  | markupText => "jsx text"

/-- The name that a word is, where any word is a name. -/
def spelling? : Token → Option String
  | name spelling | keyword _ spelling => some spelling
  | _ => none

def isWord (token : Token) : Bool := token.spelling?.isSome

def isKeyword (token : Token) (word : String) : Bool :=
  match token with
  | keyword found _ => found == word
  | _ => false

def isOneOfKeywords (token : Token) (words : List String) : Bool :=
  match token with
  | keyword found _ => words.contains found
  | _ => false

/-- A word that is a name wherever it stands, a few contexts apart. -/
def isFreeWord : Token → Bool
  | name _ => true
  | keyword word _ => !isReserved word
  | _ => false

/-- A word that names something without being bound to one meaning. -/
def isPlainWord : Token → Bool
  | name _ => true
  | keyword word _ => !isReserved word && !(["let", "await", "yield"].contains word)
  | _ => false

def isText : Token → Bool
  | text _ => true
  | _ => false

def isNumber : Token → Bool
  | number _ => true
  | _ => false

def isPlainKey (token : Token) : Bool :=
  token.isWord || token.isText || token.isNumber || token == bigint

def isTemplate : Token → Bool
  | template _ => true
  | _ => false

end Token

/-- Punctuators, the longer ones first. -/
def punctuators : List (List Char) := [
  ['>', '>', '>', '='],
  ['.', '.', '.'], ['=', '=', '='], ['!', '=', '='], ['*', '*', '='], ['<', '<', '='],
  ['>', '>', '='], ['>', '>', '>'], ['&', '&', '='], ['|', '|', '='], ['?', '?', '='],
  ['=', '>'], ['=', '='], ['!', '='], ['<', '='], ['>', '='], ['<', '<'], ['>', '>'],
  ['&', '&'], ['|', '|'], ['?', '?'], ['+', '+'], ['-', '-'], ['*', '*'], ['+', '='],
  ['-', '='], ['*', '='], ['/', '='], ['%', '='], ['&', '='], ['|', '='], ['^', '='],
  ['\x7b'], ['\x7d'], ['('], [')'], ['['], [']'], [';'], [','], ['<'], ['>'], ['+'], ['-'], ['*'],
  ['/'], ['%'], ['&'], ['|'], ['^'], ['!'], ['~'], ['?'], [':'], ['='], ['.'], ['@'], ['#']]

def isGap (char : Char) : Bool :=
  let code := char.toNat
  code == 9 || code == 11 || code == 12 || code == 0x20 || code == 0x85 || code == 0xA0 ||
    code == 0x1680 || (0x2000 ≤ code && code ≤ 0x200B) || code == 0x202F || code == 0x205F ||
    code == 0x3000 || code == 0xFEFF

mutual

/-- Passes blanks and comments, and says whether a line end was among them. An arrow of two hyphens
begins a comment at the start of a line only. -/
def skipGaps (lineBreak : Bool) : List Char → List Char × Bool
  | [] => ([], lineBreak)
  | '/' :: '/' :: rest => skipLine lineBreak rest
  | '/' :: '*' :: rest => skipBlock lineBreak rest
  | '<' :: '!' :: '-' :: '-' :: rest => skipLine lineBreak rest
  | '-' :: '-' :: '>' :: rest =>
    if lineBreak then skipLine lineBreak rest else ('-' :: '-' :: '>' :: rest, lineBreak)
  | char :: rest =>
    if isLineEnd char then skipGaps true rest
    else if isGap char then skipGaps lineBreak rest
    else (char :: rest, lineBreak)

def skipLine (lineBreak : Bool) : List Char → List Char × Bool
  | [] => ([], lineBreak)
  | char :: rest => if isLineEnd char then skipGaps true rest else skipLine lineBreak rest

def skipBlock (lineBreak : Bool) : List Char → List Char × Bool
  | [] => ([], lineBreak)
  | '*' :: '/' :: rest => skipGaps lineBreak rest
  | char :: rest => skipBlock (lineBreak || isLineEnd char) rest

end

def ofFound {α : Type} (found : Found α) (token : α → Token) : Token × List Char :=
  match found with
  | (.ok value, rest) => (token value, rest)
  | (.error cause, rest) => (.error cause, rest)

def spellUnits (units : List Nat) : Option String := (joinSurrogates units).map String.ofList

/-- The token of a word that was written as the difference of two texts. A word that begins with an
escape is a name whatever it spells; another keyword with an escape keeps its meaning and is spelled
with the escape, unless it is reserved. -/
def wordToken (text rest : List Char) (spelled : List Char) (escaped : Bool) : Token :=
  let word := String.ofList spelled
  if text.head? = some '\\' || !isKeyword word then .name word
  else if !escaped then .keyword word word
  else if isReserved word then .error (.escapeInReservedWord word)
  else .keyword word (String.ofList (text.take (text.length - rest.length)))

def readWordToken (text : List Char) : Token × List Char :=
  match readWord (text.length + 1) [] false text with
  | (.ok (spelled, escaped), rest) => (wordToken text rest spelled escaped, rest)
  | (.error cause, rest) => (.error cause, rest)

def numeralToken : Numeral → Token
  | .number value => .number value
  | .bigint => .bigint

def startsWithDigit (text : List Char) : Bool := text.head?.any Char.isDigit

/-- The punctuator a text begins with. Where single angles are asked for, none is longer than that. -/
def punctuatorOf? (singleAngles : Bool) (text : List Char) : Option (List Char) :=
  match text with
  | '<' :: _ | '>' :: _ =>
    if singleAngles then some (text.take 1)
    else punctuators.find? fun spelling => spelling.isPrefixOf text
  | _ => punctuators.find? fun spelling => spelling.isPrefixOf text

/-- The token at the start of a text without leading blanks. -/
def readToken (singleAngles : Bool) (text : List Char) : Token × List Char :=
  match text with
  | [] => (.eof, [])
  | char :: rest =>
    if char = '"' || char = '\'' then
      ofFound (readQuoted char (rest.length + 1) [] [] rest) fun units => .text (spellUnits units)
    else if char = '\x60' then
      ofFound (readTemplate (rest.length + 1) [] none rest) .template
    else if char.isDigit || (char = '.' && startsWithDigit rest) then
      ofFound (readNumeral text) numeralToken
    else if char = '\\' || Text.isIdentifierStart char then readWordToken text
    else match punctuatorOf? singleAngles text with
      | some spelling => (.punctuator (String.ofList spelling), text.drop spelling.length)
      | none => (.error (.unexpectedCharacter char), rest)

end UtilityClasses.Script
