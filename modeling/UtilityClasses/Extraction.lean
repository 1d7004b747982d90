import UtilityClasses.ClassSet
import UtilityClasses.Descriptor.OfValue
import UtilityClasses.Evaluation
import UtilityClasses.Source.CallSite
import UtilityClasses.Warning

/-!
All classes that the calls in source texts can emit. Every call is evaluated and resolved on its own;
one that cannot be evaluated becomes a warning and adds no classes.
-/

namespace UtilityClasses

open Script (SyntaxError)

def defaultFunctionName : String := "tc"

structure SourceText where
  path : String
  content : String
  deriving DecidableEq, Repr, Inhabited

def SourceText.anonymous (content : String) : SourceText := ⟨"<input>", content⟩

def resolveCall (name call : String) : Except SyntaxError String :=
  (evaluateCall call name).map resolveValue

/-- What was found in one text: a class string for every call that could be evaluated. -/
structure FileExtraction where
  classes : List String
  callCount : Nat
  warnings : List Warning
  deriving DecidableEq, Repr, Inhabited

def Source.CallSite.warning (site : Source.CallSite) (path : String) (cause : SyntaxError) : Warning :=
  ⟨path, site.line, site.column, if site.terminated then .parseError else .unterminatedCall,
    Text.snippet site.text, cause.message⟩

def Source.CallSite.outcome (name path : String) (site : Source.CallSite) : Except Warning String :=
  (resolveCall name site.text).mapError (site.warning path)

def successes {ε α : Type} (outcomes : List (Except ε α)) : List α :=
  outcomes.filterMap Except.toOption

def failures {ε α : Type} (outcomes : List (Except ε α)) : List ε :=
  outcomes.filterMap fun
    | .ok _ => none
    | .error cause => some cause

def extractFile (name : String) (source : SourceText) : FileExtraction :=
  let outcomes := (Source.callSites source.content name).map (Source.CallSite.outcome name source.path)
  ⟨successes outcomes, outcomes.length, failures outcomes⟩

/-- What was found in several texts, in their order. -/
structure Extraction where
  classes : ClassSet
  fileCount : Nat
  callCount : Nat
  warnings : List Warning
  deriving DecidableEq, Repr, Inhabited

namespace Extraction

def empty : Extraction := ⟨.empty, 0, 0, []⟩

def add (extraction : Extraction) (file : FileExtraction) : Extraction where
  classes := file.classes.foldl ClassSet.insertAll extraction.classes
  fileCount := extraction.fileCount + 1
  callCount := extraction.callCount + file.callCount
  warnings := extraction.warnings ++ file.warnings

end Extraction

def extract (name : String) (sources : List SourceText) : Extraction :=
  (sources.map (extractFile name)).foldl Extraction.add .empty

/-- The class string of calls that are given as texts. Those that cannot be evaluated add nothing. -/
def classesOfCalls (calls : List String) : String :=
  (ClassSet.ofList (successes (calls.map (resolveCall defaultFunctionName)))).render

def classesOfSources (sources : List String) : String :=
  (extract defaultFunctionName (sources.map SourceText.anonymous)).classes.render

end UtilityClasses
