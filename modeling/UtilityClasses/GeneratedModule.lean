/-!
The generated module: one exported constant whose value is a template literal that spells all classes
on one line.

Backslashes and backquotes are escaped, and so is a dollar sign that would begin an interpolation.
-/

namespace UtilityClasses

def escapeTemplate : List Char → List Char
  | [] => []
  | '\\' :: rest => '\\' :: '\\' :: escapeTemplate rest
  | '\x60' :: rest => '\\' :: '\x60' :: escapeTemplate rest
  | '$' :: '\x7b' :: rest => '\\' :: '$' :: '\x7b' :: escapeTemplate rest
  | char :: rest => char :: escapeTemplate rest

def renderModule (constName classes : String) : String :=
  "export const " ++ constName ++ " = `" ++ String.ofList (escapeTemplate classes.toList) ++ "`\n"

end UtilityClasses
