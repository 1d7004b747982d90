import UtilityClasses.Extraction
import UtilityClasses.Glob
import UtilityClasses.Json.Printer
import UtilityClasses.Text.Identifier

/-!
The configuration of a project: where its sources are, which of them are read, and what is written
where.
-/

namespace UtilityClasses

open Json (Value)

structure Config where
  sourceRoot : String
  output : String
  functionName : String
  constName : String
  extensions : List String
  ignores : List String
  deriving DecidableEq, Repr, Inhabited

namespace Config

def default : Config where
  sourceRoot := "./src"
  output := "./src/styles/tailcomp.js"
  functionName := defaultFunctionName
  constName := "tailcomp"
  extensions :=
    ["ts", "tsx", "js", "jsx", "html", "astro", "vue", "svelte", "mjs", "cjs", "mdx"]
  ignores := ["**/node_modules/**"]

def toValue (config : Config) : Value :=
  .object [
    ("sourceRoot", .text config.sourceRoot),
    ("output", .text config.output),
    ("functionName", .text config.functionName),
    ("constName", .text config.constName),
    ("extensions", .list (config.extensions.map .text)),
    ("ignores", .list (config.ignores.map .text))]

def defaultText : String := default.toValue.pretty

end Config

inductive ConfigFault where
  | invalidPattern (pattern : String) (fault : Glob.Fault)
  | functionNotIdentifier (name : String)
  | constNotIdentifier (name : String)
  | noExtensions
  deriving DecidableEq, Repr, Inhabited

def ConfigFault.message : ConfigFault → String
  | invalidPattern pattern fault =>
    "Invalid glob pattern in 'ignores': \"" ++ pattern ++ "\": " ++ fault.message
  | functionNotIdentifier name =>
    "Invalid 'functionName': \"" ++ name ++ "\" is not a JavaScript identifier"
  | constNotIdentifier name =>
    "Invalid 'constName': \"" ++ name ++ "\" is not a JavaScript identifier"
  | noExtensions => "'extensions' must list at least one file extension"

namespace Config

def patternFault? (pattern : String) : Option ConfigFault :=
  match Glob.Pattern.ofString pattern with
  | .ok _ => none
  | .error fault => some (.invalidPattern pattern fault)

/-- The first fault of a configuration: patterns come first, then names, then extensions. -/
def fault? (config : Config) : Option ConfigFault :=
  match config.ignores.findSome? patternFault? with
  | some fault => some fault
  | none =>
    if !Text.isIdentifier config.functionName then
      some (.functionNotIdentifier config.functionName)
    else if !Text.isIdentifier config.constName then some (.constNotIdentifier config.constName)
    else if config.extensions.isEmpty then some .noExtensions
    else none

def validate (config : Config) : Except ConfigFault Unit :=
  match config.fault? with
  | some fault => .error fault
  | none => .ok ()

end Config

end UtilityClasses
