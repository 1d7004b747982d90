/-!
Patterns of path texts. A question mark stands for any character, a star for any run of characters, a
range for one character in or out of a set, all of them for slashes too. Two stars make up a whole
part of the path and stand for any number of parts.
-/

namespace UtilityClasses.Glob

/-- A member of a range: a character, or all from one to another. -/
inductive Member where
  | char (value : Char)
  | span (first last : Char)
  deriving DecidableEq, Repr, Inhabited

def Member.holds (member : Member) (char : Char) : Bool :=
  match member with
  | .char value => char == value
  | .span first last => first ≤ char && char ≤ last

inductive Token where
  | char (value : Char)
  | anyChar
  | anyRun
  | anyParts
  | oneOf (members : List Member)
  | noneOf (members : List Member)
  deriving DecidableEq, Repr, Inhabited

inductive Cause where
  | tooManyStars
  | unboundedParts
  | invalidRange
  deriving DecidableEq, Repr, Inhabited

/-- Why a text is no pattern, and near which of its characters. -/
structure Fault where
  position : Nat
  cause : Cause
  deriving DecidableEq, Repr, Inhabited

def Cause.message : Cause → String
  | tooManyStars => "wildcards are either regular `*` or recursive `**`"
  | unboundedParts => "recursive wildcards must form a single path component"
  | invalidRange => "invalid range pattern"

def Fault.message (fault : Fault) : String :=
  "Pattern syntax error near position " ++ toString fault.position ++ ": " ++ fault.cause.message

/-- The members that the text of a range spells. A hyphen between two characters spans them. -/
def membersOf : List Char → List Member
  | first :: '-' :: last :: rest => .span first last :: membersOf rest
  | char :: rest => .char char :: membersOf rest
  | [] => []

/-- The text up to the first closing bracket and the text behind it. The first character belongs to
the range even if it is a bracket. -/
def takeRange : List Char → Option (List Char × List Char)
  | [] => none
  | first :: others =>
    match others.dropWhile (· != ']') with
    | [] => none
    | _ :: rest => some (first :: others.takeWhile (· != ']'), rest)

/-- A range behind its opening bracket, and the text behind it. -/
def rangeOf? : List Char → Option (Token × List Char)
  | '!' :: text => (takeRange text).map fun (range, rest) => (.noneOf (membersOf range), rest)
  | text => (takeRange text).map fun (range, rest) => (.oneOf (membersOf range), rest)

def afterParts? : List Char → Option (List Char)
  | [] => some []
  | '/' :: rest => some rest
  | _ => none

/-- The tokens of a text that begins at a position, behind a character. -/
def tokensFrom : Nat → Nat → Option Char → List Char → Except Fault (List Token)
  | 0, _, _, _ => .ok []
  | _, _, _, [] => .ok []
  | fuel + 1, position, previous, char :: rest =>
    match char with
    | '?' => (tokensFrom fuel (position + 1) (some char) rest).map (.anyChar :: ·)
    | '*' =>
      match rest with
      | '*' :: '*' :: _ => .error ⟨position + 2, .tooManyStars⟩
      | '*' :: following =>
        if previous.all (· == '/') then
          match afterParts? following with
          | none => .error ⟨position + 2, .unboundedParts⟩
          | some after =>
            (tokensFrom fuel (position + 2 + (following.length - after.length)) (some '/')
              after).map (.anyParts :: ·)
        else .error ⟨position - 1, .unboundedParts⟩
      | _ => (tokensFrom fuel (position + 1) (some char) rest).map (.anyRun :: ·)
    | '[' =>
      match rangeOf? rest with
      | none => .error ⟨position, .invalidRange⟩
      | some (token, after) =>
        (tokensFrom fuel (position + 1 + (rest.length - after.length)) (some ']') after).map
          (token :: ·)
    | _ => (tokensFrom fuel (position + 1) (some char) rest).map (.char char :: ·)

structure Pattern where
  tokens : List Token
  deriving DecidableEq, Repr, Inhabited

def Pattern.ofString (text : String) : Except Fault Pattern :=
  (tokensFrom (text.length + 1) 0 none text.toList).map Pattern.mk

def Token.admits : Token → Char → Bool
  | char value, other => other == value
  | anyChar, _ => true
  | oneOf members, other => members.any (·.holds other)
  | noneOf members, other => !members.any (·.holds other)
  | anyRun, _ | anyParts, _ => false

/-- The texts that are left when any run of characters has been taken away. -/
def suffixes : List Char → List (List Char)
  | [] => [[]]
  | char :: rest => (char :: rest) :: suffixes rest

/-- The texts that are left behind the slashes of a text, and at its end. -/
def partSuffixes : List Char → List (List Char)
  | [] => [[]]
  | '/' :: rest => rest :: partSuffixes rest
  | _ :: rest => partSuffixes rest

def matchTokens : List Token → List Char → Bool
  | [], text => text.isEmpty
  | .anyRun :: tokens, text => (suffixes text).any (matchTokens tokens)
  | .anyParts :: tokens, text => (text :: partSuffixes text).any (matchTokens tokens)
  | token :: tokens, char :: rest => token.admits char && matchTokens tokens rest
  | _ :: _, [] => false

def Pattern.matchesText (pattern : Pattern) (text : String) : Bool :=
  matchTokens pattern.tokens text.toList

def hasWildcard (text : String) : Bool := text.toList.any fun char => char == '*' || char == '?'

end UtilityClasses.Glob
