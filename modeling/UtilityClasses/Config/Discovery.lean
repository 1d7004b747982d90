import UtilityClasses.Config.Reader
import UtilityClasses.FileSystem.Access
import UtilityClasses.FileSystem.Path

/-!
Finding the configuration of a directory: the nearest configuration file at or above it, but none
above the top of the repository the directory is in.
-/

namespace UtilityClasses

open FileSystem (FileAccess FileError Path.join Path.ancestors)

def configFileName : String := ".tailcomprc.json"

/-- What the top directory of a repository holds. -/
def repositoryMark : String := ".git"

/-- The configuration file of the first directory that holds one, unless the top of a repository
comes before it. -/
def findConfigAmong {m : Type → Type} [Monad m] (present : String → m Bool) :
    List String → m (Option String)
  | [] => return none
  | directory :: parents => do
    let path := Path.join directory configFileName
    if ← present path then return some path
    else if ← present (Path.join directory repositoryMark) then return none
    else findConfigAmong present parents

def findConfigFile {m : Type → Type} [Monad m] (present : String → m Bool) (start : String) :
    m (Option String) :=
  findConfigAmong present (Path.ancestors start)

inductive ConfigError where
  | unreadable (path : String) (error : FileError)
  | malformed (path : String) (error : Json.Error)
  | invalid (fault : ConfigFault)
  deriving DecidableEq, Repr

def ConfigError.message : ConfigError → String
  | unreadable path error =>
    "Failed to read config file: " ++ Text.quoteText path ++ ": " ++ error.message
  | malformed path error =>
    "Failed to parse config file: " ++ Text.quoteText path ++ ": " ++ error.message
  | invalid fault => fault.message

structure LoadedConfig where
  config : Config
  fromFile : Bool
  deriving DecidableEq, Repr, Inhabited

def configOfText (path text : String) : Except ConfigError LoadedConfig :=
  match Config.ofString text with
  | .error error => .error (.malformed path error)
  | .ok config =>
    match config.validate with
    | .error fault => .error (.invalid fault)
    | .ok _ => .ok ⟨config, true⟩

/-- The configuration of a directory; the default one when no file governs it. -/
def loadConfig {m : Type → Type} [Monad m] [FileAccess m] (start : String) :
    m (Except ConfigError LoadedConfig) := do
  match ← findConfigFile FileAccess.pathExists start with
  | none => return .ok ⟨.default, false⟩
  | some path =>
    match ← FileAccess.readText path with
    | .error error => return .error (.unreadable path error)
    | .ok text => return configOfText path text

end UtilityClasses
