import UtilityClasses.CommandLine.Arguments
import UtilityClasses.CommandLine.Report
import UtilityClasses.Config.Discovery
import UtilityClasses.GeneratedModule
import UtilityClasses.Scan

/-!
The command that generates the module: every class of the source files goes into one text, which is
written to the configured file or only shown.

Nothing is written before the configuration is found valid, the sources are gathered and the whole
text of the module is known.
-/

namespace UtilityClasses.CommandLine

open FileSystem (FileAccess FileError Path.parent?)

inductive CommandError where
  | badConfig (error : ConfigError)
  | noSourceRoot (path : String)
  | directoryNotMade (path : String) (error : FileError)
  | moduleNotWritten (path : String) (error : FileError)
  | configNotWritten (error : FileError)
  | badDescriptor (error : Json.Error)
  deriving DecidableEq, Repr

def CommandError.message : CommandError → String
  | badConfig error => error.message
  | noSourceRoot path => "Source root does not exist: " ++ path
  | directoryNotMade path error =>
    "Failed to create directory: " ++ path ++ ": " ++ error.message
  | moduleNotWritten path error =>
    "Failed to write output file: " ++ path ++ ": " ++ error.message
  | configNotWritten error => "Failed to write " ++ configFileName ++ ": " ++ error.message
  | badDescriptor error => "Failed to parse descriptor JSON: " ++ error.message

namespace Outcome

def succeed (console : Console) : Outcome := ⟨.success, console⟩

/-- What was printed before an error stays printed. -/
def stop (console : Console) (error : CommandError) : Outcome :=
  ⟨.error, console.note (errorLine error.message)⟩

end Outcome

def GenerateOptions.override (options : GenerateOptions) (config : Config) : Config :=
  { config with
    sourceRoot := options.sourceRoot.getD config.sourceRoot
    output := options.output.getD config.output
    functionName := options.functionName.getD config.functionName }

/-- What a configuration asks of the scan. The module of an earlier run is no source. -/
def scanRequest (config : Config) : ScanRequest where
  root := config.sourceRoot
  extensions := config.extensions
  ignores := config.ignores
  exclude := some config.output

structure Generation where
  scan : Scan
  extraction : Extraction
  unreadable : List Warning
  deriving DecidableEq, Repr, Inhabited

namespace Generation

def warnings (generation : Generation) : List Warning :=
  Warning.sort (generation.unreadable ++ generation.extraction.warnings)

def moduleText (generation : Generation) (config : Config) : String :=
  renderModule config.constName generation.extraction.classes.render

def summary (generation : Generation) : Summary where
  classCount := generation.extraction.classes.size
  callCount := generation.extraction.callCount
  fileCount := generation.extraction.fileCount

def report (generation : Generation) (options : GenerateOptions) (config : Config)
    (console : Console) : Console :=
  (console.notes (warningLines generation.warnings options.verbose)).printLine
    (generation.summary.line (if options.dryRun then none else some config.output))

/-- Warnings are refused where they are denied. -/
def conclude (generation : Generation) (options : GenerateOptions) (console : Console) : Outcome :=
  if options.denyWarnings && !generation.warnings.isEmpty then
    ⟨.failure, console.note (deniedLine generation.warnings.length)⟩
  else .succeed console

def finish (generation : Generation) (options : GenerateOptions) (config : Config)
    (console : Console) : Outcome :=
  generation.conclude options (generation.report options config console)

end Generation

def foundNotes (options : GenerateOptions) (loaded : LoadedConfig) : List String :=
  if options.verbose && !loaded.fromFile then
    ["Note: No " ++ configFileName ++ " found, using default configuration"]
  else []

def scanNotes (options : GenerateOptions) (scan : Scan) : List String :=
  if options.verbose then scan.warnings.map fun warning => warningLine warning.message else []

section

variable {m : Type → Type} [Monad m] [FileAccess m]

def gather (config : Config) : m Generation := do
  let scan ← UtilityClasses.scan (scanRequest config)
  let (sources, unreadable) ← loadSources scan.files
  return ⟨scan, extract config.functionName sources, unreadable⟩

/-- Makes the directory that a file is to stand in. A name alone stands in the working directory. -/
def makeParent (path : String) : m (Except CommandError Unit) := do
  match Path.parent? path with
  | none | some "" => return .ok ()
  | some parent =>
    return (← FileAccess.createDirectories parent).mapError (.directoryNotMade parent)

def writeModule (path text : String) : m (Except CommandError Unit) := do
  match ← makeParent path with
  | .error error => return .error error
  | .ok _ => return (← FileAccess.writeText path text).mapError (.moduleNotWritten path)

def deliver (options : GenerateOptions) (config : Config) (generation : Generation)
    (console : Console) : m Outcome := do
  let text := generation.moduleText config
  if options.dryRun then return generation.finish options config (console.print text)
  else
    match ← writeModule config.output text with
    | .error error => return .stop console error
    | .ok _ => return generation.finish options config console

/-- Generates under a configuration, unless that is invalid or its source root is no directory. -/
def generateWith (options : GenerateOptions) (config : Config) (console : Console) :
    m Outcome := do
  match config.validate with
  | .error fault => return .stop console (.badConfig (.invalid fault))
  | .ok _ =>
    if ← FileAccess.isDirectory config.sourceRoot then
      let generation ← gather config
      deliver options config generation (console.notes (scanNotes options generation.scan))
    else return .stop console (.noSourceRoot config.sourceRoot)

def generate (options : GenerateOptions) : m Outcome := do
  match ← loadConfig (← FileAccess.workingDirectory) with
  | .error error => return .stop .empty (.badConfig error)
  | .ok loaded =>
    generateWith options (options.override loaded.config)
      (Console.empty.notes (foundNotes options loaded))

end

end UtilityClasses.CommandLine
