import UtilityClasses.Warning

/-!
What is printed about a run, results apart from notes, and the status a run ends with.
-/

namespace UtilityClasses.CommandLine

structure Console where
  out : String
  err : String
  deriving DecidableEq, Repr, Inhabited

namespace Console

def empty : Console := ⟨"", ""⟩

def print (console : Console) (text : String) : Console :=
  { console with out := console.out ++ text }

def printLine (console : Console) (line : String) : Console := console.print (line ++ "\n")

def note (console : Console) (line : String) : Console :=
  { console with err := console.err ++ line ++ "\n" }

def notes (console : Console) (lines : List String) : Console := lines.foldl note console

end Console

/-- A refused result is a failure; an error is a run that could not be finished. -/
inductive ExitStatus where
  | success
  | failure
  | error
  deriving DecidableEq, Repr, Inhabited

def ExitStatus.code : ExitStatus → Nat
  | success => 0
  | failure => 1
  | error => 2

structure Outcome where
  status : ExitStatus
  console : Console
  deriving DecidableEq, Repr, Inhabited

def successMark : String := "✓"

def failureMark : String := "✘"

def warningLine (message : String) : String := "warning: " ++ message

def errorLine (message : String) : String := "error: " ++ message

/-- A count before the form of a word that goes with it. -/
def counted (count : Nat) (one many : String) : String :=
  toString count ++ " " ++ if count = 1 then one else many

structure Summary where
  classCount : Nat
  callCount : Nat
  fileCount : Nat
  deriving DecidableEq, Repr, Inhabited

/-- The line about a module, which was written to a path or only shown. -/
def Summary.line (summary : Summary) (written : Option String) : String :=
  successMark ++ " Generated " ++ counted summary.classCount "class" "classes" ++
    " from " ++ counted summary.callCount "call site" "call sites" ++
    " in " ++ counted summary.fileCount "file" "files" ++
    match written with
    | some path => " -> " ++ path
    | none => " (dry run)"

def countLine (count : Nat) (one many wrong : String) : List String :=
  if count = 0 then []
  else [warningLine (counted count one many ++ " could not be " ++ wrong ++ " (use -v for details)")]

/-- The lines about warnings: one for each, or else their numbers alone. -/
def warningLines (warnings : List Warning) (verbose : Bool) : List String :=
  if verbose then warnings.map fun warning => warningLine warning.display
  else
    let (unreadable, calls) := warnings.partition fun warning => warning.kind == .unreadableFile
    countLine calls.length "call site" "call sites" "evaluated" ++
      countLine unreadable.length "file" "files" "read"

def deniedLine (count : Nat) : String :=
  failureMark ++ " " ++ counted count "warning" "warnings" ++ " denied by --deny-warnings"

end UtilityClasses.CommandLine
