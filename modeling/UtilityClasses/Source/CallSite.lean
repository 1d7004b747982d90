import UtilityClasses.Source.Code
import UtilityClasses.Text.Whitespace

/-!
The calls of the descriptor function in a source text.

A call is the function's name, not continued to the left by a character of a name, followed at once by
an opening parenthesis. Names are looked for in the whole text, in comments and strings too, from left
to right without overlap. Only the argument list is read as code, up to its closing parenthesis; a
list that is never closed runs to the end of the text, and a blank list is no call.
-/

namespace UtilityClasses.Source

open UtilityClasses.Text

structure CallSite where
  text : String
  line : Nat
  column : Nat
  terminated : Bool
  deriving DecidableEq, Repr, Inhabited

/-- A place in a text: the characters before it, the nearest first, and those after it. -/
structure Place where
  before : List Char
  after : List Char
  deriving DecidableEq, Repr, Inhabited

namespace Place

/-- Lines count from one. -/
def line (place : Place) : Nat := place.before.count '\n' + 1

/-- Columns count characters, from one. -/
def column (place : Place) : Nat := (place.before.takeWhile (· != '\n')).length + 1

end Place

/-- Characters that continue a name to the left: those of ASCII names and all beyond ASCII. -/
def continuesName (char : Char) : Bool :=
  char.isAlphanum || char == '_' || char == '$' || 128 ≤ char.toNat

/-- The places where `name` stands, from left to right without overlap. `skip` characters belong to
an occurrence already found. -/
def occurrencesFrom (name : List Char) (before : List Char) (skip : Nat) :
    List Char → List Place
  | [] => []
  | char :: rest =>
    match skip with
    | skipped + 1 => occurrencesFrom name (char :: before) skipped rest
    | 0 =>
      if name.isPrefixOf (char :: rest) then
        ⟨before, char :: rest⟩ :: occurrencesFrom name (char :: before) (name.length - 1) rest
      else occurrencesFrom name (char :: before) 0 rest

def occurrences (name : List Char) (text : List Char) : List Place :=
  if name.isEmpty then [] else occurrencesFrom name [] 0 text

def isCallStart (name : List Char) (place : Place) : Bool :=
  !(place.before.head?.any continuesName) && (place.after.drop name.length).head? == some '('

def isBlankList (list : List Char) : Bool := ((list.drop 1).dropLast).all isBlank

/-- The call whose name stands at a place, unless its argument list is blank. -/
def callSiteAt (name : List Char) (place : Place) : Option CallSite :=
  let list := place.after.drop name.length
  match listLength list with
  | some length =>
    if isBlankList (list.take length) then none
    else some ⟨String.ofList (place.after.take (name.length + length)), place.line, place.column,
      true⟩
  | none => some ⟨String.ofList place.after, place.line, place.column, false⟩

def callSites (source : String) (name : String) : List CallSite :=
  ((occurrences name.toList source.toList).filter (isCallStart name.toList)).filterMap
    (callSiteAt name.toList)

def calls (source : String) (name : String) : List String :=
  (callSites source name).map CallSite.text

end UtilityClasses.Source
