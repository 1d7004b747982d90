import UtilityClasses.FileSystem.Error
import UtilityClasses.FileSystem.Path

/-!
Trees of files, and the way a path takes through one.

A file holds a text, or bytes that spell none. A path leads from a directory through names, dots and
links; the place it leads to is named by the names on the way to it from the root.
-/

namespace UtilityClasses.FileSystem

inductive FileTree where
  | file (text : Option String)
  | link (target : String)
  | directory (entries : List (String × FileTree))
  deriving Repr, Inhabited

/-- The names from the root to a place in a tree. -/
abbrev Location : Type := List String

namespace FileTree

def child? (tree : FileTree) (name : String) : Option FileTree :=
  match tree with
  | directory entries => entries.lookup name
  | _ => none

def isDirectory : FileTree → Bool
  | directory _ => true
  | _ => false

def at? (tree : FileTree) : Location → Option FileTree
  | [] => some tree
  | name :: rest =>
    match tree.child? name with
    | some child => child.at? rest
    | none => none

end FileTree

/-- Entries with one of them replaced, or added behind the others. -/
def setEntry (entries : List (String × FileTree)) (name : String) (entry : FileTree) :
    List (String × FileTree) :=
  match entries with
  | [] => [(name, entry)]
  | (other, old) :: rest =>
    if other = name then (name, entry) :: rest else (other, old) :: setEntry rest name entry

namespace FileTree

/-- The tree with an entry put at a location whose directory exists; what stood there is replaced. -/
def put (entry : FileTree) : Location → FileTree → FileTree
  | [], _ => entry
  | name :: rest, directory entries =>
    match entries.lookup name, rest with
    | some child, _ => directory (setEntry entries name (put entry rest child))
    | none, [] => directory (setEntry entries name entry)
    | none, _ :: _ => directory entries
  | _ :: _, other => other

def remove : Location → FileTree → FileTree
  | [], tree => tree
  | [name], directory entries => directory (entries.filter fun entry => entry.1 != name)
  | name :: rest, directory entries =>
    match entries.lookup name with
    | some child => directory (setEntry entries name (remove rest child))
    | none => directory entries
  | _ :: _, other => other

mutual

/-- The paths of the regular files in a tree that stands at a path. -/
def filesIn (path : String) : FileTree → List String
  | file _ => [path]
  | link _ => []
  | directory entries => filesInEntries path entries

def filesInEntries (path : String) : List (String × FileTree) → List String
  | [] => []
  | (name, entry) :: rest => filesIn (Path.join path name) entry ++ filesInEntries path rest

end

mutual

/-- The regular files in a tree, with the names that lead to them and their texts. -/
def contents (location : Location) : FileTree → List (Location × Option String)
  | file text => [(location, text)]
  | link _ => []
  | directory entries => contentsOfEntries location entries

def contentsOfEntries (location : Location) :
    List (String × FileTree) → List (Location × Option String)
  | [] => []
  | (name, entry) :: rest =>
    contents (location ++ [name]) entry ++ contentsOfEntries location rest

end

end FileTree

/-- How a path is followed: whether through a link at its very end, and whether a missing name at its
end is where something can be made. -/
structure Following where
  lastLink : Bool
  lastMissing : Bool
  deriving DecidableEq, Repr, Inhabited

/-- How far a path leads without following a link: to a location, nowhere, or to a link in a
directory, with the segments that are left behind it. -/
inductive Walk where
  | arrived (location : Location)
  | failed (error : FileError)
  | atLink (location : Location) (target : String) (rest : List String)
  deriving DecidableEq, Repr, Inhabited

namespace FileTree

/-- Walks from a location along segments up to the first link. Before each step, also an empty one, a
directory must have been reached. -/
def walk (tree : FileTree) (following : Following) : Location → List String → Walk
  | location, [] => .arrived location
  | location, segment :: rest =>
    match tree.at? location with
    | some (directory entries) =>
      if segment.isEmpty || segment == "." then walk tree following location rest
      else if segment == ".." then walk tree following location.dropLast rest
      else match entries.lookup segment with
        | none =>
          if rest.isEmpty && following.lastMissing then .arrived (location ++ [segment])
          else .failed .notFound
        | some (link target) =>
          if rest.isEmpty && !following.lastLink then .arrived (location ++ [segment])
          else .atLink location target rest
        | some _ => walk tree following (location ++ [segment]) rest
    | _ => .failed .notDirectory

def linkLimit : Nat := 40

/-- Where a link leads: from the root or from the directory it stands in. -/
def linkStart (location : Location) (target : String) : Location :=
  if Path.isAbsolute target then [] else location

/-- Walks along segments, through at most as many links as the first number says. -/
def locateFrom (tree : FileTree) (following : Following) :
    Nat → Location → List String → Except FileError Location
  | links, location, rest =>
    match tree.walk following location rest with
    | .arrived reached => .ok reached
    | .failed error => .error error
    | .atLink reached target left =>
      match links with
      | 0 => .error .tooManyLinks
      | links + 1 =>
        locateFrom tree following links (linkStart reached target) (segments target ++ left)

end FileTree

end UtilityClasses.FileSystem
