import UtilityClasses.Decimal.Shortest
import UtilityClasses.Json.Value
import UtilityClasses.Script.Reading
import UtilityClasses.Text.Whitespace

/-!
The value of a call's argument, as far as it can be told without running code.

Objects and texts keep their structure and booleans their value; all else counts as true, so that a
class that is only chosen on a condition is never lost. Of an object only the members whose names are
known are kept.
-/

namespace UtilityClasses

open Json (Value Fields setField)
open Script (Expr Key Member SyntaxError)

namespace Script

/-- The expression inside groups and wrappers, which leave its value as it is. -/
def Expr.unwrap : Expr → Expr
  | .group inner => inner.unwrap
  | .typed _ inner => inner.unwrap
  | expr => expr

/-- The text that a literal spells, if the expression is one. -/
def Expr.spelled? (expr : Expr) : Option String :=
  match expr.unwrap with
  | .text value => value
  | .template cooked => cooked
  | _ => none

/-- The name of a member, if it is known. Numbers are written without an exponent. -/
def Key.name? : Key → Option String
  | .identifier name => some name
  | .text value => value
  | .number value => some (Decimal.positional value)
  | .bigint => none
  | .computed inner => inner.spelled?

end Script

def textOrTrue (text : Option String) : Value :=
  match text with
  | some value => .text value
  | none => .boolean true

mutual

/-- The value of an expression; true when it is not known. -/
def reduce : Expr → Value
  | .group inner => reduce inner
  | .typed _ inner => reduce inner
  | .object members => .object (reduceMembers [] members)
  | .text value => textOrTrue value
  | .template cooked => textOrTrue cooked
  | .boolean value => .boolean value
  | _ => .boolean true

/-- The fields of an object whose first members gave `fields`. -/
def reduceMembers (fields : Fields) : List Member → Fields
  | [] => fields
  | member :: rest => reduceMembers (reduceMember fields member) rest

/-- A shorthand member has a name and an unknown value; spreads and methods add nothing. -/
def reduceMember (fields : Fields) : Member → Fields
  | .entry key value =>
    match key.name? with
    | some name => setField fields name (reduce value)
    | none => fields
  | .shorthand name => setField fields name (.boolean true)
  | _ => fields

end

def dropLeading (lead : List Char) (text : List Char) : List Char :=
  if lead.isPrefixOf text then text.drop lead.length else text

def dropTrailing (char : Char) (text : List Char) : List Char :=
  if text.getLast? = some char then text.dropLast else text

/-- The text between the parentheses of a call. Where the closing one is missing, the text runs to the
end of the call. -/
def argumentText (call name : String) : String :=
  let list := Text.trimStart (dropLeading name.toList call.toList)
  let rest := Text.trimEnd (dropLeading ['('] list)
  String.ofList (dropTrailing ')' rest)

def firstOf : Expr → Expr
  | .sequence first _ => first
  | expr => expr

def evaluateCall (call name : String) : Except SyntaxError Value :=
  (Script.parseExpression (argumentText call name)).map fun expr => reduce (firstOf expr)

end UtilityClasses
