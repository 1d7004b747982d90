import UtilityClasses.FileSystem.Error

/-!
What the commands ask of the files around them. Paths are texts, absolute or taken from the working
directory, and links are followed except in `filesBelow`.
-/

namespace UtilityClasses.FileSystem

class FileAccess (m : Type → Type) where
  /-- The absolute path of the working directory. -/
  workingDirectory : m String
  /-- Whether something stands at a path. -/
  pathExists : String → m Bool
  isDirectory : String → m Bool
  /-- The absolute path without links of what stands at a path. -/
  canonical? : String → m (Option String)
  readText : String → m (Except FileError String)
  /-- Makes or replaces a file. -/
  writeText : String → String → m (Except FileError Unit)
  /-- Makes a directory and those above it, as far as they are missing. -/
  createDirectories : String → m (Except FileError Unit)
  /-- The regular files below a path, each as its path continued from the given one. Only a link at
  the very path is followed, and only to a directory. -/
  filesBelow : String → m (Except FileError (List String))

end UtilityClasses.FileSystem
