import UtilityClasses.Extraction
import UtilityClasses.FileSystem.Access
import UtilityClasses.FileSystem.Path
import UtilityClasses.Glob

/-!
The source files below a directory: regular files with one of the wanted extensions, without those
that are ignored and without one file, the generated module, that is to be left out.

An ignored text without wildcards is a path below the directory, and all below it is ignored. Others
are patterns for the whole text of a file's path.
-/

namespace UtilityClasses

open FileSystem (FileAccess FileError Path.join Path.isBelow Path.extension? Path.fileName? sortPaths)

structure ScanRequest where
  root : String
  extensions : List String
  ignores : List String
  exclude : Option String
  deriving DecidableEq, Repr, Inhabited

inductive ScanWarning where
  | invalidPattern (pattern : String) (fault : Glob.Fault)
  | inaccessible (path : String) (error : FileError)
  deriving DecidableEq, Repr, Inhabited

def ScanWarning.message : ScanWarning → String
  | invalidPattern pattern fault =>
    "Invalid ignore pattern '" ++ pattern ++ "': " ++ fault.message
  | inaccessible path error =>
    "Cannot access path: IO error for operation on " ++ path ++ ": " ++ error.message

/-- The files in the order of their paths, how many paths could not be looked at, and what there is to
say about it. -/
structure Scan where
  files : List String
  skipped : Nat
  warnings : List ScanWarning
  deriving DecidableEq, Repr, Inhabited

def isWildcardIgnore (ignored : String) : Bool := Glob.hasWildcard ignored

namespace ScanRequest

def ignoredPaths (request : ScanRequest) : List String :=
  (request.ignores.filter fun ignored => !isWildcardIgnore ignored).map (Path.join request.root)

def readPatterns (request : ScanRequest) : List (String × Except Glob.Fault Glob.Pattern) :=
  (request.ignores.filter isWildcardIgnore).map fun text => (text, Glob.Pattern.ofString text)

def patterns (request : ScanRequest) : List Glob.Pattern :=
  request.readPatterns.filterMap fun entry => entry.2.toOption

def patternWarnings (request : ScanRequest) : List ScanWarning :=
  request.readPatterns.filterMap fun entry =>
    match entry.2 with
    | .ok _ => none
    | .error fault => some (.invalidPattern entry.1 fault)

def hasExtension (request : ScanRequest) (path : String) : Bool :=
  (Path.extension? path).any request.extensions.contains

def wants (request : ScanRequest) (path : String) : Bool :=
  request.hasExtension path &&
    !request.ignoredPaths.any (Path.isBelow path) &&
    !request.patterns.any (·.matchesText path)

end ScanRequest

section

variable {m : Type → Type} [Monad m] [FileAccess m]

/-- Whether a path leads to the excluded file, whose canonical path is known. Only files of its name
are looked at more closely. -/
def isExcluded (excluded : Option String) (path : String) : m Bool := do
  match excluded with
  | none => return false
  | some excluded =>
    if Path.fileName? path == Path.fileName? excluded then
      return (← FileAccess.canonical? path) == some excluded
    else return false

def withoutExcluded (excluded : Option String) : List String → m (List String)
  | [] => return []
  | path :: rest => do
    let skipped ← isExcluded excluded path
    let kept ← withoutExcluded excluded rest
    return if skipped then kept else path :: kept

def canonicalExclude (request : ScanRequest) : m (Option String) := do
  match request.exclude with
  | none => return none
  | some path => FileAccess.canonical? path

def scan (request : ScanRequest) : m Scan := do
  let excluded ← canonicalExclude request
  match ← FileAccess.filesBelow request.root with
  | .error error =>
    return ⟨[], 1, request.patternWarnings ++ [.inaccessible request.root error]⟩
  | .ok found =>
    let files ← withoutExcluded excluded (found.filter request.wants)
    return ⟨sortPaths files, 0, request.patternWarnings⟩

def loadSource (path : String) : m (Except Warning SourceText) := do
  match ← FileAccess.readText path with
  | .ok content => return .ok ⟨path, content⟩
  | .error error => return .error (.unreadable path error.message)

def loadEach : List String → m (List (Except Warning SourceText))
  | [] => return []
  | path :: rest => do
    let first ← loadSource path
    return first :: (← loadEach rest)

def loadSources (paths : List String) : m (List SourceText × List Warning) := do
  let loaded ← loadEach paths
  return (successes loaded, failures loaded)

end

end UtilityClasses
