/-!
Positions counted in UTF-8 bytes, as measures on lists of characters.

`dropBytes` splits a text at a byte offset. An offset may fall inside a character; then the bytes
that are left of that character are counted and the text resumes after it.
-/

namespace UtilityClasses.Text

def byteLength : List Char → Nat
  | [] => 0
  | char :: rest => char.utf8Size + byteLength rest

/-- What lies behind a byte offset: the rest of a character that the offset splits, as a number of
bytes, and the whole characters after it. `none` when the offset is past the end. -/
def dropBytes : Nat → List Char → Option (Nat × List Char)
  | 0, text => some (0, text)
  | _ + 1, [] => none
  | offset + 1, char :: rest =>
    if char.utf8Size ≤ offset + 1 then dropBytes (offset + 1 - char.utf8Size) rest
    else some (char.utf8Size - (offset + 1), rest)

end UtilityClasses.Text
