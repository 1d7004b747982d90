import UtilityClasses.Text.Whitespace

/-!
Sets of class tokens in the order of their first insertion. No token is empty and none occurs twice.
-/

namespace UtilityClasses

structure ClassSet where
  tokens : List String
  deriving DecidableEq, Repr, Inhabited

namespace ClassSet

def empty : ClassSet := ⟨[]⟩

def contains (set : ClassSet) (token : String) : Bool := set.tokens.contains token

/-- Adds a token and says whether it was added: empty and known tokens are not. -/
def insert (set : ClassSet) (token : String) : Bool × ClassSet :=
  if token.isEmpty || set.contains token then (false, set)
  else (true, ⟨set.tokens ++ [token]⟩)

def insertAll (set : ClassSet) (classes : String) : ClassSet :=
  (Text.wordsOf classes).foldl (fun grown token => (grown.insert token).2) set

def ofList (texts : List String) : ClassSet := texts.foldl insertAll empty

def size (set : ClassSet) : Nat := set.tokens.length

def isEmpty (set : ClassSet) : Bool := set.tokens.isEmpty

def render (set : ClassSet) : String := Text.joinWords set.tokens

end ClassSet

end UtilityClasses
