import UtilityClasses.Text.Utf8

/-!
Telling code from what stands inside quotes, comments and template text.

`ScanState` says where the reader of a source text is. Its frames are the pieces of code and the
template texts that enclose the place, the innermost first; a frame of code counts the braces that
were opened in it, so that the brace that ends an interpolation is known. `advance` moves over one
character, looking one character ahead. A character that belongs to the one before it, such as an
escaped one, is swallowed whatever it is.

Only quotes, backslashes, slashes, stars, braces, backquotes and line ends matter; regular expressions
are not recognised.
-/

namespace UtilityClasses.Source

inductive Frame where
  | code (braces : Nat)
  | template
  deriving DecidableEq, Repr, Inhabited

inductive Region where
  | plain
  | quoted (quote : Char)
  | lineComment
  | blockComment
  deriving DecidableEq, Repr, Inhabited

structure ScanState where
  frames : List Frame
  region : Region
  swallow : Bool
  deriving DecidableEq, Repr, Inhabited

namespace ScanState

def start : ScanState := ⟨[.code 0], .plain, false⟩

/-- One character of plain code in the innermost frame, which has `braces` open. -/
def advancePlain (braces : Nat) (outer : List Frame) (char : Char) (following : Option Char) :
    ScanState × Bool :=
  let stay : ScanState := ⟨.code braces :: outer, .plain, false⟩
  match char with
  | '\'' => (⟨.code braces :: outer, .quoted '\'', false⟩, false)
  | '"' => (⟨.code braces :: outer, .quoted '"', false⟩, false)
  | '\x60' => (⟨.template :: .code braces :: outer, .plain, false⟩, false)
  | '/' =>
    match following with
    | some '/' => (⟨.code braces :: outer, .lineComment, false⟩, false)
    | some '*' => (⟨.code braces :: outer, .blockComment, true⟩, false)
    | _ => (stay, true)
  | '\x7b' => (⟨.code (braces + 1) :: outer, .plain, false⟩, true)
  | '\x7d' =>
    match braces, outer with
    | opened + 1, _ => (⟨.code opened :: outer, .plain, false⟩, true)
    | 0, [] => (stay, true)
    | 0, enclosing => (⟨enclosing, .plain, false⟩, false)
  | _ => (stay, true)

/-- One character inside quotes or a comment. A line end is code again after an open quote and after
a line comment. -/
def advanceRegion (state : ScanState) (char : Char) (following : Option Char) :
    ScanState × Bool :=
  match state.region with
  | .plain => (state, true)
  | .quoted quote =>
    if char = '\\' then ({ state with swallow := true }, false)
    else if char = '\n' then ({ state with region := .plain }, true)
    else if char = quote then ({ state with region := .plain }, false)
    else (state, false)
  | .lineComment =>
    if char = '\n' then ({ state with region := .plain }, true) else (state, false)
  | .blockComment =>
    if char = '*' && following = some '/' then
      ({ state with region := .plain, swallow := true }, false)
    else (state, false)

/-- One character of template text inside the frames `outer`. -/
def advanceTemplate (outer : List Frame) (char : Char) (following : Option Char) : ScanState :=
  match char with
  | '\\' => ⟨.template :: outer, .plain, true⟩
  | '\x60' => ⟨outer, .plain, false⟩
  | '$' =>
    if following = some '\x7b' then ⟨.code 0 :: .template :: outer, .plain, true⟩
    else ⟨.template :: outer, .plain, false⟩
  | _ => ⟨.template :: outer, .plain, false⟩

/-- Moves over one character and says whether it is code. -/
def advance (state : ScanState) (char : Char) (following : Option Char) : ScanState × Bool :=
  if state.swallow then ({ state with swallow := false }, false)
  else match state.frames with
    | .template :: outer => (advanceTemplate outer char following, false)
    | .code braces :: outer =>
      match state.region with
      | .plain => advancePlain braces outer char following
      | _ => state.advanceRegion char following
    | [] => (state, false)

end ScanState

def classify (state : ScanState) : List Char → List (Char × Bool)
  | [] => []
  | char :: rest =>
    let (next, isCode) := state.advance char rest.head?
    (char, isCode) :: classify next rest

/-- The bytes of classified text that are code, with their positions, the first character being at
`position`. -/
def codeBytesFrom : Nat → List (Char × Bool) → List (Nat × UInt8)
  | _, [] => []
  | position, (char, isCode) :: rest =>
    let bytes := String.utf8EncodeChar char
    let following := codeBytesFrom (position + bytes.length) rest
    if isCode then ((List.range' position bytes.length).zip bytes) ++ following else following

/-- The bytes of a source text from a byte offset on that are code, with their positions. The bytes
left of a character that the offset splits are code. -/
def codeBytes (source : String) (start : Nat) : List (Nat × UInt8) :=
  match Text.dropBytes start source.toList with
  | none => []
  | some (left, text) =>
    let split := (source.toList.flatMap String.utf8EncodeChar).drop start |>.take left
    ((List.range' start left).zip split) ++
      codeBytesFrom (start + left) (classify .start text)

/-- The number of characters up to and with the parenthesis that closes the first one opened, where
`depth` parentheses are open. A parenthesis that closes none counts as closing one. -/
def closeAfter (state : ScanState) (depth : Nat) : List Char → Option Nat
  | [] => none
  | char :: rest =>
    let (next, isCode) := state.advance char rest.head?
    if isCode && char == '(' then (closeAfter next (depth + 1) rest).map (· + 1)
    else if isCode && char == ')' then
      if depth ≤ 1 then some 1 else (closeAfter next (depth - 1) rest).map (· + 1)
    else (closeAfter next depth rest).map (· + 1)

/-- The length in characters of the parenthesised list that a text begins with. -/
def listLength (text : List Char) : Option Nat := closeAfter .start 0 text

/-- The byte offset behind the parenthesised list that opens at a byte offset. -/
def closingParen (source : String) (start : Nat) : Option Nat :=
  match Text.dropBytes start source.toList with
  | none => none
  | some (left, text) =>
    (listLength text).map fun length => start + left + Text.byteLength (text.take length)

end UtilityClasses.Source
