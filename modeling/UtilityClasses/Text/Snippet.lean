import UtilityClasses.Text.Whitespace

/-!
One-line previews of source text. The words are joined by single spaces; a line of more than sixty
characters is cut there, loses the blank it may end in, and gets three dots.
-/

namespace UtilityClasses.Text

def snippetLimit : Nat := 60

def condense (text : String) : String := joinWords (wordsOf text)

def snippet (text : String) : String :=
  let line := (condense text).toList
  if line.length ≤ snippetLimit then String.ofList line
  else String.ofList (trimEnd (line.take snippetLimit)) ++ "..."

end UtilityClasses.Text
