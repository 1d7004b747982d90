import UtilityClasses.CommandLine.Generate

/-!
Running a command: the class string of one descriptor, a new configuration file, or the generated
module.
-/

namespace UtilityClasses.CommandLine

open FileSystem (FileAccess)

def helpText : String :=
  "Compile nested style descriptors into utility class strings and statically extract " ++
  "every class they can emit\n\n" ++
  "Usage: tailcomp [COMMAND]\n\n" ++
  "Commands:\n" ++
  "  generate  Extract every class reachable from descriptor calls and write the class module\n" ++
  "  resolve   Resolve a JSON descriptor to its class string\n" ++
  "  init      Initialize a new .tailcomprc.json configuration file\n" ++
  "  help      Print this message or the help of the given subcommand(s)\n\n" ++
  "Options:\n" ++
  "  -h, --help     Print help\n" ++
  "  -V, --version  Print version\n"

def versionText : String := "tailcomp 0.1.0\n"

def Usage.message : Usage → String
  | unknownArgument => "unexpected argument found"
  | invalidCommand => "unrecognized subcommand"
  | invalidValue => "a value is required"
  | tooManyValues => "unexpected value found"
  | missingArgument => "a required argument was not provided"
  | conflict => "an argument cannot be used multiple times"
  | help | version => ""

/-- Questions about the program are answered with success. -/
def Usage.outcome : Usage → Outcome
  | help => .succeed (Console.empty.print helpText)
  | version => .succeed (Console.empty.print versionText)
  | usage => ⟨.error, Console.empty.note (errorLine usage.message)⟩

def resolveText (text : String) : Outcome :=
  match Json.Value.ofString text with
  | .error error => .stop .empty (.badDescriptor error)
  | .ok value => .succeed (Console.empty.printLine (resolveValue value))

section

variable {m : Type → Type} [Monad m] [FileAccess m]

/-- Writes the default configuration, but never over another one. -/
def createConfig : m Outcome := do
  if ← FileAccess.pathExists configFileName then
    return ⟨.failure, Console.empty.note (errorLine (configFileName ++ " already exists"))⟩
  else
    match ← FileAccess.writeText configFileName Config.defaultText with
    | .error error => return .stop .empty (.configNotWritten error)
    | .ok _ =>
      return .succeed (Console.empty.printLine (successMark ++ " Created " ++ configFileName))

def run : Option Command → m Outcome
  | none => return .succeed (Console.empty.print helpText)
  | some (.generate options) => generate options
  | some (.resolve descriptor) => return resolveText descriptor
  | some .init => createConfig

end

end UtilityClasses.CommandLine
