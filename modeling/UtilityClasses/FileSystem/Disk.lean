import UtilityClasses.FileSystem.Access
import UtilityClasses.FileSystem.Tree

/-!
A file tree with a working directory, as a model of the files that commands run on. An operation that
fails changes nothing.
-/

namespace UtilityClasses.FileSystem

structure Disk where
  tree : FileTree
  directory : Location
  deriving Repr, Inhabited

def Location.path (location : Location) : String := "/" ++ "/".intercalate location

namespace Disk

/-- Where a path leads. The empty path leads nowhere. -/
def locate (disk : Disk) (following : Following) (path : String) : Except FileError Location :=
  if path.isEmpty then .error .notFound
  else
    let start := if Path.isAbsolute path then [] else disk.directory
    disk.tree.locateFrom following FileTree.linkLimit start (segments path)

def find (disk : Disk) (lastLink : Bool) (path : String) : Except FileError FileTree := do
  let location ← disk.locate ⟨lastLink, false⟩ path
  match disk.tree.at? location with
  | some entry => return entry
  | none => throw .notFound

def pathExists (disk : Disk) (path : String) : Bool := (disk.find true path).isOk

def isDirectory (disk : Disk) (path : String) : Bool :=
  match disk.find true path with
  | .ok entry => entry.isDirectory
  | .error _ => false

def canonical? (disk : Disk) (path : String) : Option String :=
  ((disk.locate ⟨true, false⟩ path).map Location.path).toOption

def readText (disk : Disk) (path : String) : Except FileError String := do
  match ← disk.find true path with
  | .file (some text) => return text
  | .file none => throw .notText
  | .directory _ => throw .isDirectory
  | .link _ => throw .tooManyLinks

/-- The path without the slashes it ends in, except for the root. -/
def withoutSlash (path : String) : String :=
  match path.toList.reverse.dropWhile (· == '/') with
  | [] => "/"
  | kept => String.ofList kept.reverse

/-- The disk with a file put at a path, through links. The directory it stands in must exist, and a
directory is never replaced. -/
def writeFile (disk : Disk) (path : String) (text : Option String) : Except FileError Disk := do
  if path.isEmpty then throw .notFound
  let location ← disk.locate ⟨true, true⟩ (withoutSlash path)
  if Path.endsInSlash path then throw .isDirectory
  match disk.tree.at? location with
  | some (.directory _) => throw .isDirectory
  | _ => return { disk with tree := FileTree.put (.file text) location disk.tree }

/-- The disk with an entry put at a path where nothing stands yet. -/
def makeEntry (disk : Disk) (path : String) (entry : FileTree) : Except FileError Disk := do
  let location ← disk.locate ⟨false, true⟩ path
  match disk.tree.at? location with
  | some _ => throw .alreadyExists
  | none => return { disk with tree := FileTree.put entry location disk.tree }

def makeDirectory (disk : Disk) (path : String) : Except FileError Disk :=
  disk.makeEntry path (.directory [])

/-- A directory that is there already need not be made. -/
def makeUnlessPresent (disk : Disk) (path : String) : Except FileError Disk :=
  match disk.makeDirectory path with
  | .ok made => .ok made
  | .error error => if disk.isDirectory path then .ok disk else .error error

/-- Makes the first of several directories, each of which stands in the next. -/
def makeNested (disk : Disk) : List String → Except FileError Disk
  | [] => .ok disk
  | path :: parents =>
    if path.isEmpty then .ok disk
    else match disk.makeDirectory path with
      | .error .notFound => do (← disk.makeNested parents).makeUnlessPresent path
      | _ => disk.makeUnlessPresent path

def makeDirectories (disk : Disk) (path : String) : Except FileError Disk :=
  disk.makeNested (Path.ancestors path)

def remove (disk : Disk) (path : String) : Disk :=
  match disk.locate ⟨false, false⟩ path with
  | .ok location => { disk with tree := FileTree.remove location disk.tree }
  | .error _ => disk

def filesBelow (disk : Disk) (path : String) : Except FileError (List String) := do
  match ← disk.find false path with
  | .link _ =>
    match ← disk.find true path with
    | .directory entries => return FileTree.filesInEntries path entries
    | _ => return []
  | entry => return entry.filesIn path

/-- An operation that puts a new disk in place of the old one unless it fails. -/
def change (operation : Disk → Except FileError Disk) : StateM Disk (Except FileError Unit) :=
  fun disk =>
    match operation disk with
    | .ok changed => (.ok (), changed)
    | .error error => (.error error, disk)

instance : FileAccess (StateM Disk) where
  workingDirectory := do return (← get).directory.path
  pathExists path := do return (← get).pathExists path
  isDirectory path := do return (← get).isDirectory path
  canonical? path := do return (← get).canonical? path
  readText path := do return (← get).readText path
  writeText path text := change fun disk => disk.writeFile path (some text)
  createDirectories path := change fun disk => disk.makeDirectories path
  filesBelow path := do return (← get).filesBelow path

end Disk

end UtilityClasses.FileSystem
