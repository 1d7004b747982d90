import UtilityClasses.Script.Binding
import UtilityClasses.Script.Primary
import UtilityClasses.Script.Statement

/-!
Reading an expression from text.

The readers of the parts of a script ask for other parts through `Inner`; here the knot is tied. Each
request for a part goes one level deeper. Before a part asks for itself again it passes a token, and
between two tokens at most `partsPerToken` requests are open, so that the length of the text bounds the
depth.
-/

namespace UtilityClasses.Script

def part (inner : Inner) : Inner
  | .assignment => assignment inner
  | .unary => unary inner
  | .access => access inner
  | .creation => creation inner (primary inner)
  | .element isChild => element inner isChild
  | .type => fullType inner
  | .plainType => plainType inner
  | .binding => binding inner
  | .statement place => statement inner place

/-- The readers of all parts, down to a depth. -/
def partsTo : Nat → Inner
  | 0 => fun _ => throw .nestedTooDeeply
  | depth + 1 => fun goal => part (partsTo depth) goal

def partsPerToken : Nat := 8

/-- The expression a text begins with. Text behind it is not read. What the values of calls need to
know of it is put together in `Proofs/ArgumentLists`: which expression leads a list, that an
expression stands behind each of its commas, and how literals are read. -/
def parseExpression (text : String) : Except SyntaxError Expr :=
  let chars := text.toList
  let inner := partsTo (partsPerToken * (chars.length + 1))
  match (expression inner).run .outermost (Cursor.start chars) with
  | .ok value _ => .ok value
  | .error cause _ => .error cause

end UtilityClasses.Script
