/-!
Texts of paths. Two paths are compared by their components: empty parts count for nothing, and a dot
only counts at the start of a relative path. Where a path is shown, its text stays as it was written.
-/

namespace UtilityClasses.FileSystem

def splitAll (separator : Char) : List Char → List (List Char)
  | [] => [[]]
  | char :: rest =>
    if char = separator then [] :: splitAll separator rest
    else match splitAll separator rest with
      | first :: others => (char :: first) :: others
      | [] => [[char]]

def segments (path : String) : List String := (splitAll '/' path.toList).map String.ofList

inductive Component where
  | root
  | current
  | parent
  | name (text : String)
  deriving DecidableEq, Repr, Inhabited

namespace Component

def rank : Component → Nat
  | root => 0
  | current => 1
  | parent => 2
  | name _ => 3

/-- Names are ordered by their bytes, and all else stands before them. -/
def order (left right : Component) : Ordering :=
  match left, right with
  | name left, name right => compareOfLessAndEq left right
  | _, _ => compare left.rank right.rank

end Component

namespace Path

def isAbsolute (path : String) : Bool := path.toList.head? == some '/'

def endsInSlash (path : String) : Bool := path.toList.getLast? == some '/'

def laterComponent (segment : String) : Option Component :=
  if segment.isEmpty || segment == "." then none
  else if segment == ".." then some .parent
  else some (.name segment)

def firstComponent (path segment : String) : Option Component :=
  if isAbsolute path then some .root
  else if segment == "." then some .current
  else laterComponent segment

def components (path : String) : List Component :=
  match segments path with
  | [] => []
  | first :: others => (firstComponent path first).toList ++ others.filterMap laterComponent

def fileName? (path : String) : Option String :=
  match (components path).getLast? with
  | some (.name text) => some text
  | _ => none

/-- What stands behind the last dot of the name, unless the dot begins the name. -/
def extension? (path : String) : Option String :=
  match fileName? path with
  | none => none
  | some name =>
    let behind := name.toList.reverse.takeWhile (· != '.')
    if behind.length + 1 < name.length then some (String.ofList behind.reverse) else none

/-- A path taken from a directory. An absolute path stands for itself. -/
def join (directory path : String) : String :=
  if isAbsolute path || directory.isEmpty then path
  else if endsInSlash directory then directory ++ path
  else directory ++ "/" ++ path

def isBelow (path directory : String) : Bool :=
  (components directory).isPrefixOf (components path)

def isInsignificant (segment : String) : Bool := segment.isEmpty || segment == "."

def parent? (path : String) : Option String :=
  match segments path with
  | [] => none
  | first :: others =>
    match others.reverse.dropWhile isInsignificant with
    | _ :: kept =>
      match (kept.dropWhile isInsignificant).reverse with
      | [] => some (if isAbsolute path then "/" else first)
      | rest => some ("/".intercalate (first :: rest))
    | [] => if first.isEmpty then none else some ""

def ancestorsFrom : Nat → String → List String
  | 0, path => [path]
  | fuel + 1, path =>
    match parent? path with
    | some parent => path :: ancestorsFrom fuel parent
    | none => [path]

def ancestors (path : String) : List String := ancestorsFrom (segments path).length path

def compareComponents : List Component → List Component → Ordering
  | [], [] => .eq
  | [], _ :: _ => .lt
  | _ :: _, [] => .gt
  | left :: lefts, right :: rights => (left.order right).then (compareComponents lefts rights)

def order (left right : String) : Ordering :=
  compareComponents (components left) (components right)

end Path

def sortPaths (paths : List String) : List String :=
  paths.mergeSort fun left right => Path.order left right != .gt

end UtilityClasses.FileSystem
