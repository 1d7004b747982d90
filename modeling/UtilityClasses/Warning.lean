import UtilityClasses.Text.Snippet

/-!
Warnings: a call that could not be evaluated or a file that could not be read. They are ordered by
path, line, column, kind, snippet and error, texts by their bytes.
-/

namespace UtilityClasses

inductive WarningKind where
  | parseError
  | unterminatedCall
  | unreadableFile
  deriving DecidableEq, Repr, Inhabited

namespace WarningKind

def label : WarningKind → String
  | parseError => "parse-error"
  | unterminatedCall => "unterminated-call"
  | unreadableFile => "unreadable-file"

def rank : WarningKind → Nat
  | parseError => 0
  | unterminatedCall => 1
  | unreadableFile => 2

end WarningKind

structure Warning where
  path : String
  line : Nat
  column : Nat
  kind : WarningKind
  snippet : String
  error : String
  deriving DecidableEq, Repr, Inhabited

namespace Warning

def unreadable (path error : String) : Warning := ⟨path, 0, 0, .unreadableFile, "", error⟩

def location (warning : Warning) : String :=
  if warning.line = 0 then warning.path
  else warning.path ++ ":" ++ toString warning.line ++ ":" ++ toString warning.column

def display (warning : Warning) : String :=
  warning.location ++ ": " ++ warning.error ++
    (if warning.snippet.isEmpty then "" else " in `" ++ warning.snippet ++ "`") ++
    " [" ++ warning.kind.label ++ "]"

/-- The order of the code points of two texts, which is the order of their bytes. -/
def compareText (left right : String) : Ordering :=
  compareOfLessAndEq left right

def order (left right : Warning) : Ordering :=
  (compareText left.path right.path).then <|
  (compare left.line right.line).then <|
  (compare left.column right.column).then <|
  (compare left.kind.rank right.kind.rank).then <|
  (compareText left.snippet right.snippet).then <|
  compareText left.error right.error

def sort (warnings : List Warning) : List Warning :=
  warnings.mergeSort fun left right => left.order right != .gt

end Warning

end UtilityClasses
