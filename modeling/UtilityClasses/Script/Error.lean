import UtilityClasses.Text.Quoted

/-!
Why the text of an argument is not an expression. Only faults that end the reading are listed; faults
that a reader of scripts reports and passes over leave no trace.
-/

namespace UtilityClasses.Script

inductive SyntaxError where
  | expressionExpected
  | expected (wanted found : String)
  | unexpectedToken (found wanted : String)
  | unexpectedEnd
  | identifierExpected
  | unexpectedCharacter (char : Char)
  | unterminatedRegex
  | unterminatedTemplate
  | identifierAfterNumber
  | digitExpected (radix : Nat)
  | exponentExpected
  | invalidStringEscape
  | badEscape (digits : String)
  | unicodeEscapeExpected
  | invalidUnicodeEscape
  | legacyOctalEscape
  | escapeInReservedWord (word : String)
  | invalidAssignmentTarget
  | invalidPattern
  | notExpression
  | importNotAllowed
  | importArguments
  | moduleItemNotAllowed
  | nonNullNotAllowed (base : String)
  | invalidSuper
  | invalidSuperCall
  | closingTagExpected (name : String)
  | invalidAttributeValue
  | emptyGroup
  | spreadInGroup
  | lineBreakBeforeArrow
  | arrowNotAllowed
  | optionalPattern
  | optionalChainAfterNew
  | awaitStar
  | statementEndExpected
  | lineBreakAfterThrow
  | powerOfUnary
  | emptyAttribute
  | blankInPrivateName
  | awaitAsName
  | yieldInParameters
  | uninitializedPattern
  | restPatternName
  | patternParameterProperty
  | constructorField
  | asyncConstructor
  | readonlyMethod
  | readonlyAccessor
  | accessorParameter
  | requiredAfterOptional
  | repeatedDefault
  | awaitLoop
  | nestedTooDeeply
  deriving DecidableEq, Repr, Inhabited

def digitName (radix : Nat) : String :=
  if radix = 2 then "a binary"
  else if radix = 8 then "an octal"
  else if radix = 10 then "a decimal"
  else "a hexadecimal"

def SyntaxError.message : SyntaxError → String
  | expressionExpected => "Expression expected"
  | expected wanted found => "Expected '" ++ wanted ++ "', got '" ++ found ++ "'"
  | unexpectedToken found wanted => "Unexpected token `" ++ found ++ "`. Expected " ++ wanted
  | unexpectedEnd => "Unexpected eof"
  | identifierExpected => "Expected ident"
  | unexpectedCharacter char => "Unexpected character " ++ Text.quoteChar char
  | unterminatedRegex => "Unterminated regexp literal"
  | unterminatedTemplate => "Unterminated template"
  | identifierAfterNumber => "Identifier cannot follow number"
  | digitExpected radix => "Expected " ++ digitName radix ++ " digit"
  | exponentExpected => "Expected +, - or decimal digit after e"
  | invalidStringEscape => "Invalid string escape"
  | badEscape digits => "Bad character escape sequence, expected " ++ digits
  | unicodeEscapeExpected => "Expected unicode escape"
  | invalidUnicodeEscape => "Invalid unicode escape"
  | legacyOctalEscape => "Legacy octal escape is not permitted in strict mode"
  | escapeInReservedWord word => "Unexpected escape sequence in reserved word: " ++ word
  | invalidAssignmentTarget => "Invalid assignment target"
  | invalidPattern => "Not a pattern"
  | notExpression => "Not an expression"
  | importNotAllowed => "Import is not allowed here"
  | importArguments => "`import()` requires exactly one or two arguments"
  | moduleItemNotAllowed => "'import', and 'export' cannot be used outside of module code"
  | nonNullNotAllowed base =>
    "Typescript non-null assertion operator is not allowed with '" ++ base ++ "'"
  | invalidSuper => "Invalid access to super"
  | invalidSuperCall => "Invalid `super()`"
  | closingTagExpected name => "Expected corresponding JSX closing tag for <" ++ name ++ ">"
  | invalidAttributeValue =>
    "JSX value should be either an expression or a quoted JSX text"
  | emptyGroup => "Parenthesized expression cannot be empty"
  | spreadInGroup => "Parenthesized expression cannot contain spread operator"
  | lineBreakBeforeArrow => "Unexpected line break between arrow head and arrow"
  | arrowNotAllowed => "An arrow function is not allowed here"
  | optionalPattern =>
    "A binding pattern parameter cannot be optional in an implementation signature."
  | optionalChainAfterNew => "Constructor in/after an optional chaining is not allowed."
  | awaitStar =>
    "`await*` has been removed from the async functions proposal. Use Promise.all() instead."
  | statementEndExpected => "Expected ';', '\x7d' or <eof>"
  | lineBreakAfterThrow => "LineBreak cannot follow 'throw'"
  | powerOfUnary => "'**' cannot be applied to unary/await expression."
  | emptyAttribute => "JSX attributes must only be assigned a non-empty expression"
  | blankInPrivateName => "Unexpected space between # and identifier"
  | awaitAsName => "`await` cannot be used as an identifier in an async context"
  | yieldInParameters => "'yield' cannot be used as a parameter within generator"
  | uninitializedPattern => "Destructuring bindings require initializers"
  | restPatternName => "`...` must be followed by an identifier in declaration contexts"
  | patternParameterProperty =>
    "Typescript parameter property must be an identifier or assignment pattern"
  | constructorField => "Classes may not have a non-static field named 'constructor'"
  | asyncConstructor => "Constructor can't be an async function"
  | readonlyMethod => "A method cannot be readonly"
  | readonlyAccessor => "A getter or a setter cannot be readonly"
  | accessorParameter => "A 'set' accessor must have exactly one parameter"
  | requiredAfterOptional => "A required element cannot follow an optional element."
  | repeatedDefault => "A switch block cannot have multiple defaults"
  | awaitLoop => "for await syntax is valid only for for-of statement"
  | nestedTooDeeply => "Expression is nested too deeply"

end UtilityClasses.Script
