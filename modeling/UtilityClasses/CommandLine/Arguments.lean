/-!
The arguments of a command line: a command and its options.

Arguments are read from left to right, and the first one that cannot stand where it does ends the
reading. An option with a value takes what stands behind an equals sign in the same argument, or the
next argument unless that looks like an option. Behind two hyphens nothing is an option.
-/

namespace UtilityClasses.CommandLine

structure GenerateOptions where
  sourceRoot : Option String
  output : Option String
  functionName : Option String
  dryRun : Bool
  denyWarnings : Bool
  verbose : Bool
  deriving DecidableEq, Repr, Inhabited

def GenerateOptions.none : GenerateOptions := ⟨.none, .none, .none, false, false, false⟩

inductive Command where
  | generate (options : GenerateOptions)
  | resolve (descriptor : String)
  | init
  deriving DecidableEq, Repr, Inhabited

/-- Why there is no command to run: a fault, or a question about the program. -/
inductive Usage where
  | unknownArgument
  | invalidCommand
  | invalidValue
  | tooManyValues
  | missingArgument
  | conflict
  | help
  | version
  deriving DecidableEq, Repr, Inhabited

def Command.isVerbose : Command → Bool
  | generate options => options.verbose
  | resolve _ | init => false

inductive ValueOption where
  | sourceRoot
  | output
  | functionName
  deriving DecidableEq, Repr, Inhabited

inductive Flag where
  | dryRun
  | denyWarnings
  | verbose
  deriving DecidableEq, Repr, Inhabited

namespace GenerateOptions

def value? (options : GenerateOptions) : ValueOption → Option String
  | .sourceRoot => options.sourceRoot
  | .output => options.output
  | .functionName => options.functionName

def isSet (options : GenerateOptions) : Flag → Bool
  | .dryRun => options.dryRun
  | .denyWarnings => options.denyWarnings
  | .verbose => options.verbose

/-- An option must not be given twice, and a path must not be empty. -/
def setValue (options : GenerateOptions) (option : ValueOption) (value : String) :
    Except Usage GenerateOptions :=
  if (options.value? option).isSome then .error .conflict
  else match option with
    | .functionName => .ok { options with functionName := value }
    | .sourceRoot =>
      if value.isEmpty then .error .invalidValue else .ok { options with sourceRoot := value }
    | .output =>
      if value.isEmpty then .error .invalidValue else .ok { options with output := value }

def setFlag (options : GenerateOptions) (flag : Flag) : Except Usage GenerateOptions :=
  if options.isSet flag then .error .conflict
  else match flag with
    | .dryRun => .ok { options with dryRun := true }
    | .denyWarnings => .ok { options with denyWarnings := true }
    | .verbose => .ok { options with verbose := true }

end GenerateOptions

/-- An argument by its look. A hyphen alone is a value. -/
inductive Argument where
  | separator
  | long (name : String) (value : Option String)
  | short (letters : List Char)
  | value (text : String)
  deriving DecidableEq, Repr, Inhabited

/-- The text before the first equals sign, and the text behind it if there is one. -/
def splitEquals (text : List Char) : String × Option String :=
  (String.ofList (text.takeWhile (· != '=')),
    match text.dropWhile (· != '=') with
    | [] => none
    | _ :: value => some (String.ofList value))

def Argument.ofString (text : String) : Argument :=
  match text.toList with
  | ['-', '-'] => .separator
  | '-' :: '-' :: rest =>
    let (name, attached) := splitEquals rest
    .long name attached
  | '-' :: letter :: rest => .short (letter :: rest)
  | _ => .value text

inductive LongOption where
  | flag (flag : Flag)
  | valued (option : ValueOption)
  | question (usage : Usage)
  deriving DecidableEq, Repr, Inhabited

def generateOption? : String → Option LongOption
  | "source-root" => some (.valued .sourceRoot)
  | "output" => some (.valued .output)
  | "function-name" => some (.valued .functionName)
  | "dry-run" => some (.flag .dryRun)
  | "deny-warnings" => some (.flag .denyWarnings)
  | "verbose" => some (.flag .verbose)
  | "help" => some (.question .help)
  | _ => none

def setLetters (options : GenerateOptions) : List Char → Except Usage GenerateOptions
  | [] => .ok options
  | 'v' :: rest =>
    match options.setFlag .verbose with
    | .ok options => setLetters options rest
    | .error usage => .error usage
  | 'h' :: _ => .error .help
  | _ :: _ => .error .unknownArgument

def startsKnownLetters (letters : List Char) : Bool :=
  letters.head? == some 'v' || letters.head? == some 'h'

structure Pending where
  option : ValueOption
  value : Option String
  deriving DecidableEq, Repr, Inhabited

def GenerateOptions.settle (options : GenerateOptions) :
    Option Pending → Except Usage GenerateOptions
  | .none => .ok options
  | .some ⟨_, .none⟩ => .error .invalidValue
  | .some ⟨option, .some value⟩ => options.setValue option value

/-- The options of the command that generates. It takes no arguments besides. A value is looked at
once a known option or the end follows, so that an argument that has no place here is refused before
the value in front of it. -/
def generateOptions (options : GenerateOptions) (pending : Option Pending) :
    List String → Except Usage GenerateOptions
  | [] => options.settle pending
  | text :: rest =>
    match Argument.ofString text with
    | .separator => if rest.isEmpty then options.settle pending else .error .unknownArgument
    | .value given =>
      match pending with
      | some ⟨option, none⟩ => generateOptions options (some ⟨option, some given⟩) rest
      | _ => .error .unknownArgument
    | .short letters =>
      if startsKnownLetters letters then do
        generateOptions (← setLetters (← options.settle pending) letters) none rest
      else .error .unknownArgument
    | .long name attached =>
      match generateOption? name, attached with
      | none, _ => .error .unknownArgument
      | some (.question _), some _ | some (.flag _), some _ => .error .tooManyValues
      | some (.question usage), none => do
        let _ ← options.settle pending
        throw usage
      | some (.flag flag), none => do
        generateOptions (← (← options.settle pending).setFlag flag) none rest
      | some (.valued option), some given => do
        generateOptions (← (← options.settle pending).setValue option given) none rest
      | some (.valued option), none => do
        generateOptions (← options.settle pending) (some ⟨option, none⟩) rest

/-- What an argument of a command without options of its own asks for. -/
def questionOf : Argument → Usage
  | .long "help" none => .help
  | .long "help" (some _) => .tooManyValues
  | .short ('h' :: _) => .help
  | _ => .unknownArgument

/-- At most one value, before any other fault among the arguments behind a second one. -/
def singleValue (arguments : List String) : Except Usage (Option String) :=
  match arguments with
  | [] => .ok none
  | text :: rest =>
    match Argument.ofString text with
    | .separator =>
      match rest with
      | [] => .ok none
      | [value] => .ok (some value)
      | _ => .error .unknownArgument
    | .value value =>
      match rest with
      | [] => .ok (some value)
      | next :: others =>
        match Argument.ofString next with
        | .separator => if others.isEmpty then .ok (some value) else .error .unknownArgument
        | argument => .error (questionOf argument)
    | argument => .error (questionOf argument)

def resolveCommand (arguments : List String) : Except Usage Command := do
  match ← singleValue arguments with
  | some descriptor => return .resolve descriptor
  | none => throw .missingArgument

def initCommand : List String → Except Usage Command
  | [] | ["--"] => .ok .init
  | text :: _ => .error (questionOf (Argument.ofString text))

def isCommandName (name : String) : Bool :=
  ["generate", "resolve", "init", "help"].contains name

/-- What asking for help about commands leads to. No command has commands of its own. -/
def helpOn : List String → Usage
  | [] => .help
  | [name] => if isCommandName name then .help else .invalidCommand
  | _ => .invalidCommand

def commandNamed (name : String) (arguments : List String) : Except Usage Command :=
  match name with
  | "generate" => (generateOptions .none none arguments).map .generate
  | "resolve" => resolveCommand arguments
  | "init" => initCommand arguments
  | "help" => .error (helpOn arguments)
  | _ => .error .invalidCommand

def topLetters : List Char → Usage
  | 'h' :: _ => .help
  | 'V' :: _ => .version
  | _ => .unknownArgument

/-- The command of a command line; none if nothing is asked for. -/
def Command.ofArguments? : List String → Except Usage (Option Command)
  | [] | ["--"] => .ok none
  | text :: rest =>
    match Argument.ofString text with
    | .value name => (commandNamed name rest).map some
    | .separator =>
      .error (if rest.head?.any isCommandName then .unknownArgument else .invalidCommand)
    | .short letters => .error (topLetters letters)
    | .long "help" none => .error .help
    | .long "version" none => .error .version
    | .long "help" (some _) | .long "version" (some _) => .error .tooManyValues
    | .long _ _ => .error .unknownArgument

end UtilityClasses.CommandLine
