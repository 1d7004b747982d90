/-!
Names made of ASCII letters, digits, `_` and `$` that do not begin with a digit: the names that
may be configured for the descriptor function and for the generated constant.
-/

namespace UtilityClasses.Text

def isNameStart (char : Char) : Bool := char.isAlpha || char == '_' || char == '$'

def isNamePart (char : Char) : Bool := char.isAlphanum || char == '_' || char == '$'

def isIdentifier (text : String) : Bool :=
  match text.toList with
  | [] => false
  | first :: rest => isNameStart first && rest.all isNamePart

end UtilityClasses.Text
