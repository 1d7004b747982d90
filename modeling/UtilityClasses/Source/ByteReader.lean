import UtilityClasses.Source.Code

/-!
Reading a source text byte by byte.

A reader stands at a byte offset, inside the frames that enclose it. One turn looks at the byte there:
a byte of the code is reported, and what else begins there is passed, such as a quoted text, a
comment, or one byte of a template. A backslash passes two bytes, so the reader may come to stand
inside a character or behind the end of the text.
-/

namespace UtilityClasses.Source

/-! What begins at an offset is passed as a whole. The bytes given are those from `offset` on. -/

/-- Where a quoted text ends: behind its closing quote, at a line end, or at the end of the text. -/
def quotedEnd (quote : UInt8) (offset : Nat) : List UInt8 → Nat
  | [] => offset
  | byte :: rest =>
    if byte = '\\'.toUInt8 then
      match rest with
      | [] => offset + 1
      | _ :: behind => quotedEnd quote (offset + 2) behind
    else if byte = '\n'.toUInt8 then offset
    else if byte = quote then offset + 1
    else quotedEnd quote (offset + 1) rest

/-- Where a line comment ends: at the line end, or at the end of the text. -/
def lineCommentEnd (offset : Nat) (bytes : List UInt8) : Nat :=
  offset + bytes.findIdx (· == '\n'.toUInt8)

/-- Where a block comment ends: behind its star and slash, or at the end of the text. -/
def blockCommentEnd (offset : Nat) : List UInt8 → Nat
  | [] => offset
  | byte :: rest =>
    if byte = '*'.toUInt8 ∧ rest.head? = some '/'.toUInt8 then offset + 2
    else blockCommentEnd (offset + 1) rest

/-- The innermost frame comes first. -/
structure ByteReader where
  offset : Nat
  frames : List Frame
  deriving DecidableEq, Repr, Inhabited

/-- What one turn of a reader comes to. -/
inductive Turn where
  | finished
  | passed (following : ByteReader)
  | reported (byte : UInt8) (following : ByteReader)
  deriving DecidableEq, Repr, Inhabited

namespace ByteReader

def startingAt (offset : Nat) : ByteReader := ⟨offset, [.code 0]⟩

/-- One byte of template text inside the frames `outer`. -/
def turnTemplate (offset : Nat) (outer : List Frame) (byte : UInt8) (following : Option UInt8) :
    ByteReader :=
  if byte = '\\'.toUInt8 then ⟨offset + 2, .template :: outer⟩
  else if byte = '\x60'.toUInt8 then ⟨offset + 1, outer⟩
  else if byte = '$'.toUInt8 ∧ following = some '\x7b'.toUInt8 then
    ⟨offset + 2, .code 0 :: .template :: outer⟩
  else ⟨offset + 1, .template :: outer⟩

/-- A closing brace ends an interpolation where no brace is open. -/
def turnClosing (reader : ByteReader) (byte : UInt8) : Turn :=
  match reader.frames with
  | .code (opened + 1) :: outer => .reported byte ⟨reader.offset + 1, .code opened :: outer⟩
  | _ :: enclosing :: outer => .passed ⟨reader.offset + 1, enclosing :: outer⟩
  | frames => .reported byte ⟨reader.offset + 1, frames⟩

def openBrace : List Frame → List Frame
  | .code braces :: outer => .code (braces + 1) :: outer
  | frames => frames

/-- One byte where the innermost frame is no template, `rest` being the bytes behind it. -/
def turnCode (reader : ByteReader) (byte : UInt8) (rest : List UInt8) : Turn :=
  if byte = '\''.toUInt8 ∨ byte = '"'.toUInt8 then
    .passed { reader with offset := quotedEnd byte (reader.offset + 1) rest }
  else if byte = '\x60'.toUInt8 then .passed ⟨reader.offset + 1, .template :: reader.frames⟩
  else if byte = '/'.toUInt8 ∧ rest.head? = some '/'.toUInt8 then
    .passed { reader with offset := lineCommentEnd reader.offset (byte :: rest) }
  else if byte = '/'.toUInt8 ∧ rest.head? = some '*'.toUInt8 then
    .passed { reader with offset := blockCommentEnd (reader.offset + 2) rest.tail }
  else if byte = '\x7b'.toUInt8 then
    .reported byte ⟨reader.offset + 1, openBrace reader.frames⟩
  else if byte = '\x7d'.toUInt8 then reader.turnClosing byte
  else .reported byte ⟨reader.offset + 1, reader.frames⟩

/-- One turn in a text. -/
def turn (text : List UInt8) (reader : ByteReader) : Turn :=
  match text.drop reader.offset with
  | [] => .finished
  | byte :: rest =>
    match reader.frames with
    | .template :: outer => .passed (turnTemplate reader.offset outer byte rest.head?)
    | _ => reader.turnCode byte rest

end ByteReader

/-- How a reader may go on from a turn. -/
inductive Turn.LeadsTo : Turn → ByteReader → Prop where
  | passed (following : ByteReader) : LeadsTo (.passed following) following
  | reported (byte : UInt8) (following : ByteReader) :
      LeadsTo (.reported byte following) following

/-! ### What a turn can do

Every turn but the last moves the reader on, so that the turns come to an end. -/

theorem le_quotedEnd (quote : UInt8) (offset : Nat) (bytes : List UInt8) :
    offset ≤ quotedEnd quote offset bytes := by
  fun_induction quotedEnd quote offset bytes with
  | case1 offset => exact Nat.le_refl offset
  | case2 offset => exact Nat.le_succ offset
  | case3 offset _ behind ih => omega
  | case4 offset => exact Nat.le_refl offset
  | case5 offset => exact Nat.le_succ offset
  | case6 offset byte rest _ _ _ ih => omega

theorem le_blockCommentEnd (offset : Nat) (bytes : List UInt8) :
    offset ≤ blockCommentEnd offset bytes := by
  fun_induction blockCommentEnd offset bytes with
  | case1 offset => exact Nat.le_refl offset
  | case2 offset => omega
  | case3 offset _ rest _ ih => omega

theorem lt_lineCommentEnd {offset : Nat} {byte : UInt8} (rest : List UInt8)
    (hbyte : byte ≠ '\n'.toUInt8) : offset < lineCommentEnd offset (byte :: rest) := by
  rw [lineCommentEnd, List.findIdx_cons, beq_eq_false_iff_ne.2 hbyte]
  exact Nat.lt_add_of_pos_right (Nat.succ_pos _)

/-- How a turn may change the frames around a reader. -/
inductive Reframes : List Frame → List Frame → Prop where
  | kept (frames : List Frame) : Reframes frames frames
  | counted (before after : Nat) (outer : List Frame) :
      Reframes (.code before :: outer) (.code after :: outer)
  | intoTemplate {frames : List Frame} (hcode : frames.head? ≠ some .template) :
      Reframes frames (.template :: frames)
  | outOfTemplate (outer : List Frame) : Reframes (.template :: outer) outer
  | intoCode (outer : List Frame) : Reframes (.template :: outer) (.code 0 :: .template :: outer)
  | outOfCode (frame enclosing : Frame) (outer : List Frame) :
      Reframes (frame :: enclosing :: outer) (enclosing :: outer)

structure Moves (reader following : ByteReader) : Prop where
  onward : reader.offset < following.offset
  reframes : Reframes reader.frames following.frames

namespace ByteReader

variable {text rest : List UInt8} {reader following : ByteReader} {byte : UInt8}

theorem reframes_openBrace (frames : List Frame) : Reframes frames (openBrace frames) := by
  fun_cases openBrace frames with
  | case1 braces outer => exact .counted _ _ _
  | case2 => exact .kept _

theorem moves_turnTemplate (offset : Nat) (outer : List Frame) (byte : UInt8)
    (next? : Option UInt8) :
    Moves ⟨offset, .template :: outer⟩ (turnTemplate offset outer byte next?) := by
  fun_cases turnTemplate offset outer byte next? with
  | case1 => exact ⟨Nat.lt_add_of_pos_right (by decide), .kept _⟩
  | case2 => exact ⟨Nat.lt_succ_self _, .outOfTemplate _⟩
  | case3 => exact ⟨Nat.lt_add_of_pos_right (by decide), .intoCode _⟩
  | case4 => exact ⟨Nat.lt_succ_self _, .kept _⟩

theorem moves_turnClosing (hnext : (reader.turnClosing byte).LeadsTo following) :
    Moves reader following := by
  revert hnext
  fun_cases turnClosing reader byte with
  | case1 opened outer hframes =>
      rintro ⟨⟩
      exact ⟨Nat.lt_succ_self _, hframes ▸ .counted _ _ _⟩
  | case2 frame enclosing outer _ hframes =>
      rintro ⟨⟩
      exact ⟨Nat.lt_succ_self _, hframes ▸ .outOfCode _ _ _⟩
  | case3 =>
      rintro ⟨⟩
      exact ⟨Nat.lt_succ_self _, .kept _⟩

theorem moves_turnCode (hcode : reader.frames.head? ≠ some .template)
    (hnext : (reader.turnCode byte rest).LeadsTo following) : Moves reader following := by
  revert hnext
  fun_cases turnCode reader byte rest with
  | case1 =>
      rintro ⟨⟩
      exact ⟨le_quotedEnd byte (reader.offset + 1) rest, .kept _⟩
  | case2 =>
      rintro ⟨⟩
      exact ⟨Nat.lt_succ_self _, .intoTemplate hcode⟩
  | case3 _ _ hslash =>
      rintro ⟨⟩
      exact ⟨lt_lineCommentEnd rest (by rw [hslash.1]; decide), .kept _⟩
  | case4 =>
      rintro ⟨⟩
      refine ⟨Nat.lt_of_lt_of_le ?_ (le_blockCommentEnd (reader.offset + 2) rest.tail), .kept _⟩
      exact Nat.lt_add_of_pos_right (by decide)
  | case5 =>
      rintro ⟨⟩
      exact ⟨Nat.lt_succ_self _, reframes_openBrace _⟩
  | case6 => exact moves_turnClosing
  | case7 =>
      rintro ⟨⟩
      exact ⟨Nat.lt_succ_self _, .kept _⟩

/-- **What a turn can do.** There is a byte at the offset, the reader moves on, and the frames change
in one of a few ways. -/
theorem moves_turn (hnext : (reader.turn text).LeadsTo following) :
    reader.offset < text.length ∧ Moves reader following := by
  have hinside {byte : UInt8} {rest : List UInt8} (hdrop : text.drop reader.offset = byte :: rest) :
      reader.offset < text.length := by
    refine Nat.lt_of_not_le fun hbehind => ?_
    rw [List.drop_eq_nil_of_le hbehind] at hdrop
    cases hdrop
  revert hnext
  fun_cases turn text reader with
  | case1 =>
      rintro ⟨⟩
  | case2 byte rest hdrop outer hframes =>
      rintro ⟨⟩
      have hmoves := moves_turnTemplate reader.offset outer byte rest.head?
      exact ⟨hinside hdrop, hmoves.onward, hframes ▸ hmoves.reframes⟩
  | case3 byte rest hdrop hcode =>
      refine fun hnext => ⟨hinside hdrop, moves_turnCode ?_ hnext⟩
      intro hframes
      obtain ⟨outer, houter⟩ := List.head?_eq_some_iff.1 hframes
      exact hcode outer houter

theorem moves_passed (hturn : reader.turn text = .passed following) :
    reader.offset < text.length ∧ Moves reader following := by
  apply moves_turn
  rw [hturn]
  exact .passed following

theorem moves_reported (hturn : reader.turn text = .reported byte following) :
    reader.offset < text.length ∧ Moves reader following := by
  apply moves_turn
  rw [hturn]
  exact .reported byte following

/-! ### Reading -/

/-- Reads up to the next byte of the code. At the end of the text there is none. -/
def next (text : List UInt8) (reader : ByteReader) : Option (Nat × UInt8) × ByteReader :=
  match _ : reader.turn text with
  | .finished => (none, reader)
  | .passed following => following.next text
  | .reported byte following => (some (reader.offset, byte), following)
termination_by text.length - reader.offset
decreasing_by
  obtain ⟨hinside, hmoves⟩ := moves_passed ‹reader.turn text = .passed following›
  exact Nat.sub_lt_sub_left hinside hmoves.onward

theorem onward_of_next {item : Nat × UInt8} (hnext : reader.next text = (some item, following)) :
    reader.offset < text.length ∧ reader.offset < following.offset := by
  fun_induction ByteReader.next text reader with
  | case1 => cases hnext
  | case2 reader middle hturn ih =>
      obtain ⟨hinside, hmoves⟩ := moves_passed hturn
      exact ⟨hinside, Nat.lt_trans hmoves.onward (ih hnext).2⟩
  | case3 reader byte middle hturn =>
      obtain ⟨hinside, hmoves⟩ := moves_reported hturn
      cases hnext
      exact ⟨hinside, hmoves.onward⟩

/-- The bytes of the code from a reader on, with their offsets. -/
def read (text : List UInt8) (reader : ByteReader) : List (Nat × UInt8) :=
  match _ : reader.next text with
  | (none, _) => []
  | (some item, following) => item :: following.read text
termination_by text.length - reader.offset
decreasing_by
  obtain ⟨hinside, honward⟩ := onward_of_next ‹reader.next text = (some item, following)›
  exact Nat.sub_lt_sub_left hinside honward

end ByteReader

/-- The bytes of a source text from a byte offset on that are code, with their offsets. -/
def readCode (source : String) (start : Nat) : List (Nat × UInt8) :=
  (ByteReader.startingAt start).read (source.toList.flatMap String.utf8EncodeChar)

/-- The offset behind the parenthesis that closes the list, where `depth` parentheses are open in
front of the bytes of code. -/
def closingAmong (depth : Nat) : List (Nat × UInt8) → Option Nat
  | [] => none
  | (offset, byte) :: rest =>
    if byte = '('.toUInt8 then closingAmong (depth + 1) rest
    else if byte = ')'.toUInt8 then
      if depth - 1 = 0 then some (offset + 1) else closingAmong (depth - 1) rest
    else closingAmong depth rest

/-- The byte offset behind the list that opens at a byte offset, read byte by byte. -/
def closingOffset (source : String) (start : Nat) : Option Nat :=
  closingAmong 0 (readCode source start)

end UtilityClasses.Source
