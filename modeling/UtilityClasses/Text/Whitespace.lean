/-!
Blank characters and the words between them.

A character is blank when it has the Unicode property `White_Space`. Words are the maximal runs of
characters that are not blank; nothing else about the blanks between two words is kept.
-/

namespace UtilityClasses.Text

def isBlank (char : Char) : Bool :=
  let code := char.toNat
  (9 ≤ code && code ≤ 13) || code == 0x20 || code == 0x85 || code == 0xA0 || code == 0x1680 ||
    (0x2000 ≤ code && code ≤ 0x200A) || code == 0x2028 || code == 0x2029 || code == 0x202F ||
    code == 0x205F || code == 0x3000

/-- Puts a word, spelled backwards, in front of the words that follow it, unless it is empty. -/
def closeWord (word : List Char) (following : List (List Char)) : List (List Char) :=
  if word.isEmpty then following else word.reverse :: following

/-- The words of a text, given the letters, backwards, of the word already begun. -/
def wordsFrom (word : List Char) : List Char → List (List Char)
  | [] => closeWord word []
  | char :: rest =>
    if isBlank char then closeWord word (wordsFrom [] rest)
    else wordsFrom (char :: word) rest

def words (text : List Char) : List (List Char) := wordsFrom [] text

def wordsOf (text : String) : List String := (words text.toList).map String.ofList

def trimStart (text : List Char) : List Char := text.dropWhile isBlank

def trimEnd (text : List Char) : List Char := (text.reverse.dropWhile isBlank).reverse

/-- Words in one line, a single space between neighbours. -/
def joinWords (tokens : List String) : String := " ".intercalate tokens

end UtilityClasses.Text
