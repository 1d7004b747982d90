import UtilityClasses.CommandLine.Run

/-!
The program on the files of the machine it runs on.
-/

namespace UtilityClasses

open FileSystem (FileAccess FileError Path.join)

def systemErrorNumber : IO.Error → Option UInt32
  | .alreadyExists _ number _ | .otherError number _ | .noFileOrDirectory _ number _
  | .invalidArgument _ number _ | .inappropriateType _ number _ | .noSuchThing _ number _ =>
    some number
  | _ => none

def fileErrorOf (error : IO.Error) : FileError :=
  match systemErrorNumber error with
  | some 2 => .notFound
  | some 17 => .alreadyExists
  | some 20 => .notDirectory
  | some 21 => .isDirectory
  | some 40 => .tooManyLinks
  | _ => .other (toString error)

def attempt {α : Type} (operation : IO α) : IO (Except FileError α) := do
  try return .ok (← operation)
  catch error => return .error (fileErrorOf error)

def entryAt (path : String) : IO.FS.DirEntry := ⟨path, ""⟩

mutual

/-- The regular files in a directory. One that cannot be looked into has none. -/
partial def filesInDirectory (path : String) : IO (List String) := do
  match ← attempt (entryAt path).root.readDir with
  | .error _ => return []
  | .ok entries =>
    let found ← entries.toList.mapM fun entry => filesFrom (Path.join path entry.fileName)
    return found.flatten

partial def filesFrom (path : String) : IO (List String) := do
  match (← (entryAt path).root.symlinkMetadata).type with
  | .dir => filesInDirectory path
  | .file => return [path]
  | .symlink | .other => return []

end

def filesBelowPath (path : String) : IO (List String) := do
  let metadata ← (entryAt path).root.symlinkMetadata
  if metadata.type == .symlink then
    if ← (entryAt path).root.isDir then filesInDirectory path else return []
  else filesFrom path

def readTextAt (path : String) : IO (Except FileError String) := do
  match ← attempt (IO.FS.readBinFile path) with
  | .error error => return .error error
  | .ok bytes =>
    match String.fromUTF8? bytes with
    | some text => return .ok text
    | none => return .error .notText

instance : FileAccess IO where
  workingDirectory := do return (← IO.currentDir).toString
  pathExists path := (entryAt path).root.pathExists
  isDirectory path := (entryAt path).root.isDir
  canonical? path := do return (← attempt (IO.FS.realPath path)).toOption.map (·.toString)
  readText := readTextAt
  writeText path text := attempt (IO.FS.writeFile path text)
  createDirectories path := attempt (IO.FS.createDirAll path)
  filesBelow path := attempt (filesBelowPath path)

end UtilityClasses

def main (arguments : List String) : IO UInt32 := do
  let outcome ←
    match UtilityClasses.CommandLine.Command.ofArguments? arguments with
    | .error usage => pure usage.outcome
    | .ok command => UtilityClasses.CommandLine.run command
  IO.print outcome.console.out
  IO.eprint outcome.console.err
  return outcome.status.code.toUInt32
