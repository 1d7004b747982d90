import UtilityClasses.Proofs.ByteReading
import UtilityClasses.Proofs.CodePositions

/-!
# Bytes and characters are read alike

A source text may be read byte by byte or character by character. Only ASCII characters matter to
either reader, and the bytes of other characters are never mistaken for one, so both find the same
code, also where a backslash led the reader of bytes inside a character. Both close a list at the
same parenthesis.
-/

namespace UtilityClasses.Text

/-! ### ASCII characters among bytes -/

variable {char sign : Char} {rest : List Char}

theorem utf8Size_ascii (hsign : sign.toNat < 128) : sign.utf8Size = 1 := by
  rw [Char.utf8Size_eq_one_iff, UInt32.le_iff_toNat_le]
  exact Nat.le_of_lt_succ hsign

theorem utf8EncodeChar_ascii (hsign : sign.toNat < 128) :
    String.utf8EncodeChar sign = [sign.toUInt8] :=
  String.utf8EncodeChar_eq_singleton (utf8Size_ascii hsign)

theorem toUInt8_lt (hsign : sign.toNat < 128) : sign.toUInt8 < 0x80 := by
  rw [UInt8.lt_iff_toNat_lt, Char.toUInt8, UInt32.toNat_toUInt8]
  change sign.toNat % 256 < 128
  omega

/-- Behind the first byte of a character come bytes beyond ASCII. -/
theorem le_of_mem_drop_utf8EncodeChar {byte : UInt8} {count : Nat} (hcount : 0 < count)
    (hmem : byte ∈ (String.utf8EncodeChar char).drop count) : 0x80 ≤ byte := by
  obtain ⟨index, hindex, rfl⟩ := List.getElem_of_mem hmem
  apply Source.le_of_not_isUTF8FirstByte
  rw [List.getElem_drop, UInt8.isUTF8FirstByte_getElem_utf8EncodeChar]
  omega

/-- A byte that spells an ASCII character is found in no other character. -/
theorem eq_of_mem_utf8EncodeChar (hsign : sign.toNat < 128)
    (hmem : sign.toUInt8 ∈ String.utf8EncodeChar char) : char = sign := by
  obtain ⟨first, behind, hbytes⟩ := List.exists_cons_of_ne_nil (List.ne_nil_of_mem hmem)
  rw [hbytes] at hmem
  rcases List.mem_cons.1 hmem with hfirst | hbehind
  · refine eq_of_utf8EncodeChar_append
      (?_ : String.utf8EncodeChar char ++ [] = String.utf8EncodeChar sign ++ behind)
    rw [List.append_nil, hbytes, utf8EncodeChar_ascii hsign, hfirst]
    rfl
  · have hdrop : sign.toUInt8 ∈ (String.utf8EncodeChar char).drop 1 := by rwa [hbytes]
    exact absurd (le_of_mem_drop_utf8EncodeChar Nat.one_pos hdrop)
      (UInt8.not_le.2 (toUInt8_lt hsign))

/-- The bytes of a character that is not ASCII are all beyond ASCII. -/
theorem le_of_mem_utf8EncodeChar {byte : UInt8} (hchar : ¬char.toNat < 128)
    (hmem : byte ∈ String.utf8EncodeChar char) : 0x80 ≤ byte := by
  by_contra hlt
  have hsmall : byte.toNat < 128 := UInt8.lt_iff_toNat_lt.1 (UInt8.not_le.1 hlt)
  have hcode : (Char.ofUInt8 byte).toNat < 128 := (UInt8.toNat_toUInt32 byte).trans_lt hsmall
  have hbyte : (Char.ofUInt8 byte).toUInt8 = byte := UInt8.toUInt8_toUInt32 byte
  have heq : char = Char.ofUInt8 byte :=
    eq_of_mem_utf8EncodeChar hcode (by rwa [hbyte])
  rw [heq] at hchar
  exact hchar hcode

theorem toUInt8_ne (hchar : char.toNat < 128) (hsign : sign.toNat < 128) (hne : char ≠ sign) :
    char.toUInt8 ≠ sign.toUInt8 := by
  intro heq
  refine hne (eq_of_mem_utf8EncodeChar hsign ?_)
  rw [utf8EncodeChar_ascii hchar, heq]
  exact List.mem_singleton_self _

theorem bytes_ascii (hchar : char.toNat < 128) (rest : List Char) :
    bytes (char :: rest) = char.toUInt8 :: bytes rest := by
  rw [bytes_cons, utf8EncodeChar_ascii hchar, List.singleton_append]

theorem ne_of_mem_utf8EncodeChar {byte : UInt8} (hsign : sign.toNat < 128) (hne : char ≠ sign)
    (hmem : byte ∈ String.utf8EncodeChar char) : byte ≠ sign.toUInt8 := by
  rintro rfl
  exact hne (eq_of_mem_utf8EncodeChar hsign hmem)

theorem ne_of_beyond {byte : UInt8} (hsign : sign.toNat < 128) (hbyte : 0x80 ≤ byte) :
    byte ≠ sign.toUInt8 := by
  rintro rfl
  exact UInt8.not_le.2 (toUInt8_lt hsign) hbyte

theorem head?_bytes (hsign : sign.toNat < 128) :
    (bytes rest).head? = some sign.toUInt8 ↔ rest.head? = some sign := by
  cases rest with
  | nil => simp [bytes]
  | cons char rest =>
      have hne : String.utf8EncodeChar char ≠ [] := by simp
      rw [bytes_cons, List.head?_append_of_ne_nil _ hne, List.head?_cons, Option.some.injEq]
      constructor
      · exact fun hhead => eq_of_mem_utf8EncodeChar hsign (List.mem_of_mem_head? hhead)
      · rintro rfl
        rw [utf8EncodeChar_ascii hsign]
        rfl

end UtilityClasses.Text

namespace UtilityClasses.Source

open UtilityClasses.Text

/-! ### What is passed

A piece of text that is no code is passed by both readers, and both go on behind it. -/

/-- Reading a text in `state` passes its first bytes and then goes on with the code in `frames`. -/
def Hides (state : ScanState) (text : List Char) (length : Nat) (frames : List Frame) : Prop :=
  ∃ passed after, text = passed ++ after ∧ length = byteLength passed
    ∧ classify state text = passed.map (·, false) ++ classify ⟨frames, .plain, false⟩ after

section Hides

variable {state middle : ScanState} {rest : List Char} {frames : List Frame} {char : Char}
  {length : Nat}

theorem Hides.nil (state : ScanState) (frames : List Frame) : Hides state [] 0 frames :=
  ⟨[], [], rfl, rfl, rfl⟩

theorem Hides.none (heq : classify state rest = classify ⟨frames, .plain, false⟩ rest) :
    Hides state rest 0 frames :=
  ⟨[], rest, rfl, rfl, heq⟩

theorem Hides.cons (hstep : state.advance char rest.head? = (middle, false))
    (hrest : Hides middle rest length frames) :
    Hides state (char :: rest) (char.utf8Size + length) frames := by
  obtain ⟨passed, after, rfl, rfl, hclassify⟩ := hrest
  refine ⟨char :: passed, after, rfl, rfl, ?_⟩
  rw [classify, hstep]
  change (char, false) :: classify middle (passed ++ after) = _
  rw [hclassify]
  rfl

end Hides

/-! ### Quoted texts -/

section Quoted

variable {quote char : Char} {rest : List Char} {braces : Nat} {outer : List Frame}

/-- How many bytes of a text are passed inside quotes. `escaped` says whether a backslash stands in
front of it. -/
def quotedLength (quote : Char) : Bool → List Char → Nat
  | _, [] => 0
  | true, char :: rest => char.utf8Size + quotedLength quote false rest
  | false, char :: rest =>
    if char = '\\' then char.utf8Size + quotedLength quote true rest
    else if char = '\n' then 0
    else if char = quote then char.utf8Size
    else char.utf8Size + quotedLength quote false rest

theorem hides_quoted (quote : Char) (escaped : Bool) (rest : List Char) :
    Hides ⟨.code braces :: outer, .quoted quote, escaped⟩ rest (quotedLength quote escaped rest)
      (.code braces :: outer) := by
  fun_induction quotedLength quote escaped rest with
  | case1 => exact .nil _ _
  | case2 char rest ih => exact .cons rfl ih
  | case3 rest ih =>
      refine .cons ?_ ih
      simp [ScanState.advance, ScanState.advanceRegion]
  | case4 rest =>
      refine .none ?_
      simp [classify, ScanState.advance, ScanState.advanceRegion, ScanState.advancePlain]
  | case5 rest hescape hline =>
      refine .cons (?_ : _ = (ScanState.inCode braces outer, false)) (.none rfl)
      simp [ScanState.advance, ScanState.advanceRegion, hescape, hline]
  | case6 char rest hescape hline hquote ih =>
      refine .cons ?_ ih
      simp [ScanState.advance, ScanState.advanceRegion, hescape, hline, hquote]

theorem quotedEnd_cons {quote byte : UInt8} (hescape : byte ≠ '\\'.toUInt8) (offset : Nat)
    (rest : List UInt8) :
    quotedEnd quote offset (byte :: rest)
      = if byte = '\n'.toUInt8 then offset else if byte = quote then offset + 1
        else quotedEnd quote (offset + 1) rest := by
  rw [quotedEnd.eq_def]
  simp only [if_neg hescape]

theorem quotedEnd_plain {quote : UInt8} {tail : List UInt8}
    (htail : ∀ byte ∈ tail, byte ≠ '\\'.toUInt8 ∧ byte ≠ '\n'.toUInt8 ∧ byte ≠ quote)
    (offset : Nat) (rest : List UInt8) :
    quotedEnd quote offset (tail ++ rest) = quotedEnd quote (offset + tail.length) rest := by
  induction tail generalizing offset with
  | nil => rfl
  | cons byte tail ih =>
      obtain ⟨hescape, hline, hquote⟩ := htail byte List.mem_cons_self
      rw [List.cons_append, quotedEnd_cons hescape, if_neg hline, if_neg hquote,
        ih fun other hother => htail other (List.mem_cons_of_mem _ hother), List.length_cons,
        Nat.add_assoc, Nat.add_comm 1]

/-- What stands behind a backslash ends no quoted text. -/
theorem quotedEnd_escaped (hquote : quote.toNat < 128) (char : Char) (offset : Nat)
    (rest : List UInt8) :
    quotedEnd quote.toUInt8 offset ('\\'.toUInt8 :: (String.utf8EncodeChar char ++ rest))
      = quotedEnd quote.toUInt8 (offset + 1 + char.utf8Size) rest := by
  have hlength := String.length_utf8EncodeChar char
  have hpos := char.utf8Size_pos
  obtain ⟨first, behind, hbytes⟩ : ∃ first behind, String.utf8EncodeChar char = first :: behind :=
    List.exists_cons_of_length_pos (by omega)
  have hbeyond : ∀ byte ∈ behind, 0x80 ≤ byte := fun byte hbyte =>
    le_of_mem_drop_utf8EncodeChar Nat.one_pos (by rwa [hbytes])
  have hplain : ∀ byte ∈ behind,
      byte ≠ '\\'.toUInt8 ∧ byte ≠ '\n'.toUInt8 ∧ byte ≠ quote.toUInt8 := fun byte hbyte =>
    ⟨ne_of_beyond (by decide) (hbeyond byte hbyte), ne_of_beyond (by decide) (hbeyond byte hbyte),
      ne_of_beyond hquote (hbeyond byte hbyte)⟩
  rw [hbytes, List.length_cons] at hlength
  rw [hbytes, List.cons_append, quotedEnd, if_pos rfl]
  change quotedEnd quote.toUInt8 (offset + 2) (behind ++ rest) = _
  rw [quotedEnd_plain hplain]
  congr 1
  omega

/-- The bytes of a quoted text end where its characters do. -/
theorem quotedEnd_bytes (hquote : quote = '\'' ∨ quote = '"') (escaped : Bool) (rest : List Char)
    (offset : Nat) :
    quotedEnd quote.toUInt8 offset (bytes (if escaped then '\\' :: rest else rest))
      = offset + (if escaped then 1 else 0) + quotedLength quote escaped rest := by
  have hascii : quote.toNat < 128 := by rcases hquote with rfl | rfl <;> decide
  fun_induction quotedLength quote escaped rest generalizing offset with
  | case1 escaped => cases escaped <;> rfl
  | case2 char rest ih =>
      have hrest := ih (offset + 1 + char.utf8Size)
      simp only [Bool.false_eq_true, if_false, Nat.add_zero, if_true] at hrest ⊢
      rw [bytes_ascii (by decide), bytes_cons,
        quotedEnd_escaped hascii, hrest, Nat.add_assoc _ char.utf8Size]
  | case3 rest ih =>
      have hrest := ih offset
      simp only [Bool.false_eq_true, if_false, Nat.add_zero, if_true] at hrest ⊢
      rw [hrest, Nat.add_assoc]
      rfl
  | case4 rest =>
      simp only [Bool.false_eq_true, if_false, Nat.add_zero]
      rw [bytes_ascii (by decide),
        quotedEnd_cons (by decide), if_pos rfl]
  | case5 rest hescape hline =>
      simp only [Bool.false_eq_true, if_false, Nat.add_zero]
      rw [bytes_ascii hascii,
        quotedEnd_cons (toUInt8_ne hascii (by decide) hescape),
        if_neg (toUInt8_ne hascii (by decide) hline), if_pos rfl]
      rcases hquote with rfl | rfl <;> rfl
  | case6 char rest hescape hline hclose ih =>
      have hrest := ih (offset + char.utf8Size)
      simp only [Bool.false_eq_true, if_false, Nat.add_zero] at hrest ⊢
      rw [bytes_cons, quotedEnd_plain fun byte hbyte =>
        ⟨ne_of_mem_utf8EncodeChar (by decide) hescape hbyte,
          ne_of_mem_utf8EncodeChar (by decide) hline hbyte,
          ne_of_mem_utf8EncodeChar hascii hclose hbyte⟩, String.length_utf8EncodeChar, hrest,
        Nat.add_assoc]

end Quoted

/-! ### Comments -/

section Comments

variable {char : Char} {rest : List Char} {braces : Nat} {outer : List Frame}

/-- A line comment is passed up to the line end. -/
theorem hides_lineComment (rest : List Char) :
    Hides ⟨.code braces :: outer, .lineComment, false⟩ rest
      ((bytes rest).findIdx (· == '\n'.toUInt8)) (.code braces :: outer) := by
  induction rest with
  | nil => exact .nil _ _
  | cons char rest ih =>
      by_cases hline : char = '\n'
      · subst hline
        refine .none ?_
        simp [classify, ScanState.advance, ScanState.advanceRegion, ScanState.advancePlain]
      · have hnone : (String.utf8EncodeChar char).findIdx (· == '\n'.toUInt8)
            = (String.utf8EncodeChar char).length :=
          List.findIdx_eq_length_of_false fun byte hbyte =>
            beq_eq_false_iff_ne.2 (ne_of_mem_utf8EncodeChar (by decide) hline hbyte)
        rw [bytes_cons, List.findIdx_append, hnone, if_neg (Nat.lt_irrefl _),
          String.length_utf8EncodeChar, Nat.add_comm]
        refine .cons ?_ ih
        simp [ScanState.advance, ScanState.advanceRegion, hline]

/-- How many bytes of a text are passed inside a block comment. -/
def blockCommentLength : List Char → Nat
  | [] => 0
  | char :: rest =>
    if char = '*' ∧ rest.head? = some '/' then 2 else char.utf8Size + blockCommentLength rest

theorem hides_blockComment (rest : List Char) :
    Hides ⟨.code braces :: outer, .blockComment, false⟩ rest (blockCommentLength rest)
      (.code braces :: outer) := by
  fun_induction blockCommentLength rest with
  | case1 => exact .nil _ _
  | case2 char rest hend =>
      obtain ⟨rfl, hslash⟩ := hend
      obtain ⟨behind, rfl⟩ := List.head?_eq_some_iff.1 hslash
      have hstar : ScanState.advance ⟨.code braces :: outer, .blockComment, false⟩ '*' (some '/')
          = (⟨.code braces :: outer, .plain, true⟩, false) := rfl
      exact .cons hstar (.cons rfl (.none rfl))
  | case3 char rest hend ih =>
      refine .cons ?_ ih
      simp only [ScanState.advance, Bool.false_eq_true, if_false, ScanState.advanceRegion,
        Bool.and_eq_true, decide_eq_true_eq, if_neg hend]

theorem blockCommentEnd_plain {tail : List UInt8} (htail : ∀ byte ∈ tail, byte ≠ '*'.toUInt8)
    (offset : Nat) (rest : List UInt8) :
    blockCommentEnd offset (tail ++ rest) = blockCommentEnd (offset + tail.length) rest := by
  induction tail generalizing offset with
  | nil => rfl
  | cons byte tail ih =>
      have hstar : byte ≠ '*'.toUInt8 := htail byte List.mem_cons_self
      rw [List.cons_append, blockCommentEnd, if_neg fun hend => hstar hend.1,
        ih fun other hother => htail other (List.mem_cons_of_mem _ hother), List.length_cons,
        Nat.add_assoc, Nat.add_comm 1]

theorem blockCommentEnd_bytes (rest : List Char) (offset : Nat) :
    blockCommentEnd offset (bytes rest) = offset + blockCommentLength rest := by
  fun_induction blockCommentLength rest generalizing offset with
  | case1 => rfl
  | case2 char rest hend =>
      obtain ⟨rfl, hslash⟩ := hend
      rw [bytes_ascii (by decide), blockCommentEnd,
        if_pos ⟨rfl, (head?_bytes (by decide)).2 hslash⟩]
  | case3 char rest hend ih =>
      rw [← Nat.add_assoc, ← ih (offset + char.utf8Size), bytes_cons]
      by_cases hstar : char = '*'
      · subst hstar
        have hslash : ¬('*'.toUInt8 = '*'.toUInt8 ∧ (bytes rest).head? = some '/'.toUInt8) :=
          fun hbytes => hend ⟨rfl, (head?_bytes (by decide)).1 hbytes.2⟩
        rw [utf8EncodeChar_ascii (by decide), List.singleton_append, blockCommentEnd,
          if_neg hslash]
        rfl
      · rw [blockCommentEnd_plain fun byte hbyte =>
          ne_of_mem_utf8EncodeChar (by decide) hstar hbyte, String.length_utf8EncodeChar]

end Comments

/-! ### Characters without a meaning of their own -/

/-- Characters with a meaning of their own in code, parentheses apart. -/
def isMark (char : Char) : Bool := ['\'', '"', '\x60', '/', '\x7b', '\x7d'].contains char

theorem isMark_iff {char : Char} :
    isMark char = true ↔ char = '\'' ∨ char = '"' ∨ char = '\x60' ∨ char = '/' ∨ char = '\x7b'
      ∨ char = '\x7d' := by
  simp [isMark]

theorem toNat_lt_of_isMark {char : Char} (hmark : isMark char = true) : char.toNat < 128 := by
  rcases isMark_iff.1 hmark with rfl | rfl | rfl | rfl | rfl | rfl <;> decide

namespace ByteReader

variable {text tail behind : List UInt8} {offset braces : Nat} {frames outer : List Frame}
  {byte : UInt8}

theorem turn_template (hdrop : text.drop offset = byte :: tail) :
    (⟨offset, .template :: outer⟩ : ByteReader).turn text
      = .passed (turnTemplate offset outer byte tail.head?) := by
  rw [turn, hdrop]

theorem turn_code (braces : Nat) (outer : List Frame) (hdrop : text.drop offset = byte :: tail) :
    (⟨offset, .code braces :: outer⟩ : ByteReader).turn text
      = turnCode ⟨offset, .code braces :: outer⟩ byte tail := by
  rw [turn, hdrop]

theorem read_end (hdrop : text.drop offset = []) :
    (⟨offset, frames⟩ : ByteReader).read text = [] := by
  apply read_finished
  rw [turn, hdrop]

/-- Bytes beyond ASCII are passed in a template. -/
theorem read_template_beyond (htail : ∀ byte ∈ tail, 0x80 ≤ byte)
    (hdrop : text.drop offset = tail ++ behind) :
    (⟨offset, .template :: outer⟩ : ByteReader).read text
      = (⟨offset + tail.length, .template :: outer⟩ : ByteReader).read text := by
  induction tail generalizing offset with
  | nil => rfl
  | cons byte tail ih =>
      have hbyte : 0x80 ≤ byte := htail byte List.mem_cons_self
      have hstep : turnTemplate offset outer byte (tail ++ behind).head?
          = ⟨offset + 1, .template :: outer⟩ := by
        rw [turnTemplate, if_neg (ne_of_beyond (by decide) hbyte),
          if_neg (ne_of_beyond (by decide) hbyte),
          if_neg fun hdollar => ne_of_beyond (by decide) hbyte hdollar.1]
      have hnext : text.drop (offset + 1) = tail ++ behind := by
        rw [← List.drop_drop, hdrop]
        rfl
      rw [read_passed ((turn_template hdrop).trans (congrArg Turn.passed hstep)),
        ih (fun other hother => htail other (List.mem_cons_of_mem _ hother)) hnext,
        List.length_cons, Nat.add_assoc, Nat.add_comm 1]

theorem turnCode_plain {reader : ByteReader}
    (hplain : ∀ sign, isMark sign = true → byte ≠ sign.toUInt8) (rest : List UInt8) :
    reader.turnCode byte rest = .reported byte ⟨reader.offset + 1, reader.frames⟩ := by
  rw [turnCode, if_neg (not_or.2 ⟨hplain '\'' rfl, hplain '"' rfl⟩), if_neg (hplain '\x60' rfl),
    if_neg fun hslash => hplain '/' rfl hslash.1, if_neg fun hslash => hplain '/' rfl hslash.1,
    if_neg (hplain '\x7b' rfl), if_neg (hplain '\x7d' rfl)]

/-- Bytes beyond ASCII are reported in code. -/
theorem read_code_beyond (htail : ∀ byte ∈ tail, 0x80 ≤ byte)
    (hdrop : text.drop offset = tail ++ behind) :
    (⟨offset, .code braces :: outer⟩ : ByteReader).read text
      = (List.range' offset tail.length).zip tail
        ++ (⟨offset + tail.length, .code braces :: outer⟩ : ByteReader).read text := by
  induction tail generalizing offset with
  | nil => rfl
  | cons byte tail ih =>
      have hbyte : 0x80 ≤ byte := htail byte List.mem_cons_self
      have hstep : turnCode ⟨offset, .code braces :: outer⟩ byte (tail ++ behind)
          = .reported byte ⟨offset + 1, .code braces :: outer⟩ :=
        turnCode_plain (fun _ hmark => ne_of_beyond (toNat_lt_of_isMark hmark) hbyte) _
      have hnext : text.drop (offset + 1) = tail ++ behind := by
        rw [← List.drop_drop, hdrop]
        rfl
      rw [read_reported ((turn_code braces outer hdrop).trans hstep),
        ih (fun other hother => htail other (List.mem_cons_of_mem _ hother)) hnext,
        List.length_cons, List.range'_succ, List.zip_cons_cons, List.cons_append, Nat.add_assoc,
        Nat.add_comm 1]

end ByteReader

/-! ### One character

A step of either reader leads to the same place, and from there the readers agree by induction. -/

/-- Whether both readers find the same code from an offset on, where `rest` stands. -/
def Agrees (text : List UInt8) (offset : Nat) (frames : List Frame) (rest : List Char) : Prop :=
  (⟨offset, frames⟩ : ByteReader).read text
    = codeBytesFrom offset (classify ⟨frames, .plain, false⟩ rest)

/-- Whether both readers find the same code in all texts that are shorter than `rest`. -/
def AgreesBelow (text : List UInt8) (rest : List Char) : Prop :=
  ∀ after : List Char, after.length < rest.length → ∀ (offset : Nat) (frames : List Frame),
    text.drop offset = bytes after → IsNested frames → Agrees text offset frames after

section Agrees

variable {text : List UInt8} {offset length braces : Nat} {frames inner outer : List Frame}
  {char quote : Char} {rest : List Char}

theorem drop_bytes_append {passed after : List Char}
    (hdrop : text.drop offset = bytes (passed ++ after)) :
    text.drop (offset + byteLength passed) = bytes after := by
  rw [← List.drop_drop, hdrop, drop_bytes]

theorem drop_bytes_cons (hdrop : text.drop offset = bytes (char :: rest)) :
    text.drop (offset + char.utf8Size) = bytes rest := by
  have hbegins : text.drop offset = bytes ([char] ++ rest) := hdrop
  exact drop_bytes_append hbegins

theorem agrees_hidden (hbelow : AgreesBelow text rest) (hdrop : text.drop offset = bytes rest)
    (hread : (⟨offset, frames⟩ : ByteReader).read text
      = (⟨offset + length, inner⟩ : ByteReader).read text)
    (hhides : Hides ⟨frames, .plain, false⟩ rest length inner) (hpos : 0 < length)
    (hnested : IsNested inner) : Agrees text offset frames rest := by
  obtain ⟨passed, after, rfl, rfl, hclassify⟩ := hhides
  have hpassed : 0 < passed.length := by
    rw [List.length_pos_iff]
    rintro rfl
    exact Nat.lt_irrefl 0 hpos
  have hafter := hbelow after (by simp [hpassed]) _ _ (drop_bytes_append hdrop) hnested
  rw [Agrees, hread, hafter, hclassify, codeBytesFrom_hidden]

theorem agrees_reported (hbelow : AgreesBelow text (char :: rest))
    (hdrop : text.drop offset = bytes (char :: rest))
    (hread : (⟨offset, frames⟩ : ByteReader).read text
      = (List.range' offset char.utf8Size).zip (String.utf8EncodeChar char)
        ++ (⟨offset + char.utf8Size, inner⟩ : ByteReader).read text)
    (hstep : ScanState.advance ⟨frames, .plain, false⟩ char rest.head?
      = (⟨inner, .plain, false⟩, true))
    (hnested : IsNested inner) : Agrees text offset frames (char :: rest) := by
  have hrest := hbelow rest (by simp) _ _ (drop_bytes_cons hdrop) hnested
  rw [Agrees, hread, hrest, classify, hstep]
  simp only [codeBytesFrom, String.length_utf8EncodeChar, if_true]

/-! A template -/

/-- A backslash in a template hides the character behind it, if there is one. -/
theorem agrees_escape (hbelow : AgreesBelow text ('\\' :: rest))
    (hdrop : text.drop offset = bytes ('\\' :: rest)) (hnested : IsNested (.template :: outer)) :
    Agrees text offset (.template :: outer) ('\\' :: rest) := by
  have hturn : (⟨offset, .template :: outer⟩ : ByteReader).turn text
      = .passed ⟨offset + 2, .template :: outer⟩ :=
    ByteReader.turn_template (hdrop.trans (bytes_ascii (by decide) rest))
  have hbehind : text.drop (offset + 1) = bytes rest := drop_bytes_cons hdrop
  have hinside : text.drop (offset + 2) = (bytes rest).drop 1 := by rw [← hbehind, List.drop_drop]
  cases rest with
  | nil =>
      rw [Agrees, ByteReader.read_passed hturn, ByteReader.read_end hinside]
      rfl
  | cons char rest =>
      have hlength := String.length_utf8EncodeChar char
      have hpos := char.utf8Size_pos
      rw [bytes_cons, List.drop_append_of_le_length (by omega)] at hinside
      refine agrees_hidden hbelow hdrop ?_ (.cons rfl (.cons rfl (.none rfl))) (by omega) hnested
      have hbackslash : '\\'.utf8Size = 1 := rfl
      rw [ByteReader.read_passed hturn, ByteReader.read_template_beyond
        (fun byte hbyte => le_of_mem_drop_utf8EncodeChar Nat.one_pos hbyte) hinside,
        List.length_drop, hlength, hbackslash]
      congr 2
      omega

theorem agrees_interpolation (hbelow : AgreesBelow text ('$' :: '\x7b' :: rest))
    (hdrop : text.drop offset = bytes ('$' :: '\x7b' :: rest))
    (hnested : IsNested (.template :: outer)) :
    Agrees text offset (.template :: outer) ('$' :: '\x7b' :: rest) := by
  have hbytes : bytes ('$' :: '\x7b' :: rest) = '$'.toUInt8 :: '\x7b'.toUInt8 :: bytes rest := by
    rw [bytes_ascii (by decide), bytes_ascii (by decide)]
  have hturn : (⟨offset, .template :: outer⟩ : ByteReader).turn text
      = .passed ⟨offset + 2, .code 0 :: .template :: outer⟩ :=
    ByteReader.turn_template (hdrop.trans hbytes)
  exact agrees_hidden hbelow hdrop (ByteReader.read_passed hturn) (.cons rfl (.cons rfl (.none rfl)))
    (by decide) (hnested.push Bool.false_ne_true)

theorem agrees_templateEnd (hbelow : AgreesBelow text ('\x60' :: rest))
    (hdrop : text.drop offset = bytes ('\x60' :: rest)) (hnested : IsNested (.template :: outer)) :
    Agrees text offset (.template :: outer) ('\x60' :: rest) := by
  have hturn : (⟨offset, .template :: outer⟩ : ByteReader).turn text
      = .passed ⟨offset + 1, outer⟩ :=
    ByteReader.turn_template (hdrop.trans (bytes_ascii (by decide) rest))
  exact agrees_hidden hbelow hdrop (ByteReader.read_passed hturn) (.cons rfl (.none rfl))
    (by decide) hnested.popTemplate

theorem agrees_templateText (hbelow : AgreesBelow text (char :: rest))
    (hdrop : text.drop offset = bytes (char :: rest)) (hnested : IsNested (.template :: outer))
    (hquote : char ≠ '\x60') (hescape : char ≠ '\\')
    (hdollar : char = '$' → rest.head? ≠ some '\x7b') :
    Agrees text offset (.template :: outer) (char :: rest) := by
  refine agrees_hidden hbelow hdrop ?_
    (.cons (advance_inTemplate hquote hescape hdollar) (.none rfl)) char.utf8Size_pos hnested
  by_cases hascii : char.toNat < 128
  · have hstep : ByteReader.turnTemplate offset outer char.toUInt8 (bytes rest).head?
        = ⟨offset + char.utf8Size, .template :: outer⟩ := by
      have hplain : ¬(char.toUInt8 = '$'.toUInt8 ∧ (bytes rest).head? = some '\x7b'.toUInt8) := by
        rintro ⟨hchar, hhead⟩
        by_cases heq : char = '$'
        · exact hdollar heq ((head?_bytes (by decide)).1 hhead)
        · exact toUInt8_ne hascii (by decide) heq hchar
      rw [ByteReader.turnTemplate, if_neg (toUInt8_ne hascii (by decide) hescape),
        if_neg (toUInt8_ne hascii (by decide) hquote), if_neg hplain, utf8Size_ascii hascii]
    exact ByteReader.read_passed ((ByteReader.turn_template
      (hdrop.trans (bytes_ascii hascii rest))).trans (congrArg Turn.passed hstep))
  · rw [ByteReader.read_template_beyond (fun byte hbyte => le_of_mem_utf8EncodeChar hascii hbyte)
      hdrop, String.length_utf8EncodeChar]
    rfl

theorem agrees_template (hbelow : AgreesBelow text (char :: rest))
    (hdrop : text.drop offset = bytes (char :: rest)) (hnested : IsNested (.template :: outer)) :
    Agrees text offset (.template :: outer) (char :: rest) := by
  by_cases hescape : char = '\\'
  · subst hescape
    exact agrees_escape hbelow hdrop hnested
  · by_cases hquote : char = '\x60'
    · subst hquote
      exact agrees_templateEnd hbelow hdrop hnested
    · by_cases hdollar : char = '$' → rest.head? ≠ some '\x7b'
      · exact agrees_templateText hbelow hdrop hnested hquote hescape hdollar
      · rw [Classical.not_imp, not_not] at hdollar
        obtain ⟨rfl, hbrace⟩ := hdollar
        obtain ⟨behind, rfl⟩ := List.head?_eq_some_iff.1 hbrace
        exact agrees_interpolation hbelow hdrop hnested

/-! Code -/

theorem agrees_sign (hascii : char.toNat < 128) (hbelow : AgreesBelow text (char :: rest))
    (hdrop : text.drop offset = bytes (char :: rest))
    (hturn : ByteReader.turnCode ⟨offset, .code braces :: outer⟩ char.toUInt8 (bytes rest)
      = .reported char.toUInt8 ⟨offset + 1, inner⟩)
    (hstep : ScanState.advancePlain braces outer char rest.head? = (⟨inner, .plain, false⟩, true))
    (hnested : IsNested inner) : Agrees text offset (.code braces :: outer) (char :: rest) := by
  refine agrees_reported hbelow hdrop ?_ hstep hnested
  have hcode := ByteReader.turn_code braces outer (hdrop.trans (bytes_ascii hascii rest))
  rw [ByteReader.read_reported (hcode.trans hturn), utf8EncodeChar_ascii hascii,
    utf8Size_ascii hascii]
  rfl

theorem agrees_quoted (hquote : quote = '\'' ∨ quote = '"')
    (hbelow : AgreesBelow text (quote :: rest)) (hdrop : text.drop offset = bytes (quote :: rest))
    (hnested : IsNested (.code braces :: outer)) :
    Agrees text offset (.code braces :: outer) (quote :: rest) := by
  have hascii : quote.toNat < 128 := by rcases hquote with rfl | rfl <;> decide
  have hstep : ScanState.advance (.inCode braces outer) quote rest.head?
      = (⟨.code braces :: outer, .quoted quote, false⟩, false) := by
    rcases hquote with rfl | rfl <;> rfl
  have hbyte : quote.toUInt8 = '\''.toUInt8 ∨ quote.toUInt8 = '"'.toUInt8 :=
    hquote.imp (congrArg Char.toUInt8) (congrArg Char.toUInt8)
  have hend := quotedEnd_bytes hquote false rest (offset + 1)
  simp only [Bool.false_eq_true, if_false, Nat.add_zero] at hend
  have hturn := ByteReader.turn_code braces outer (hdrop.trans (bytes_ascii hascii rest))
  rw [ByteReader.turnCode, if_pos hbyte, hend] at hturn
  refine agrees_hidden hbelow hdrop ?_ (.cons hstep (hides_quoted quote false rest))
    (Nat.add_pos_left quote.utf8Size_pos _) hnested
  rw [ByteReader.read_passed hturn, utf8Size_ascii hascii, Nat.add_assoc]

theorem agrees_backquote (hbelow : AgreesBelow text ('\x60' :: rest))
    (hdrop : text.drop offset = bytes ('\x60' :: rest)) (hnested : IsNested (.code braces :: outer)) :
    Agrees text offset (.code braces :: outer) ('\x60' :: rest) := by
  have hturn : (⟨offset, .code braces :: outer⟩ : ByteReader).turn text
      = .passed ⟨offset + 1, .template :: .code braces :: outer⟩ :=
    ByteReader.turn_code braces outer (hdrop.trans (bytes_ascii (by decide) rest))
  exact agrees_hidden hbelow hdrop (ByteReader.read_passed hturn) (.cons rfl (.none rfl))
    (by decide) (hnested.push Bool.false_ne_true.symm)

theorem agrees_lineComment (hbelow : AgreesBelow text ('/' :: '/' :: rest))
    (hdrop : text.drop offset = bytes ('/' :: '/' :: rest))
    (hnested : IsNested (.code braces :: outer)) :
    Agrees text offset (.code braces :: outer) ('/' :: '/' :: rest) := by
  have hbytes (chars : List Char) : bytes ('/' :: chars) = '/'.toUInt8 :: bytes chars :=
    bytes_ascii (by decide) chars
  have hturn : (⟨offset, .code braces :: outer⟩ : ByteReader).turn text
      = .passed ⟨lineCommentEnd offset (bytes ('/' :: '/' :: rest)), .code braces :: outer⟩ := by
    rw [hbytes, hbytes] at hdrop ⊢
    exact ByteReader.turn_code braces outer hdrop
  have hend : lineCommentEnd offset (bytes ('/' :: '/' :: rest))
      = offset + ('/'.utf8Size + (bytes ('/' :: rest)).findIdx (· == '\n'.toUInt8)) := by
    have hslash : ('/'.toUInt8 == '\n'.toUInt8) = false := rfl
    rw [lineCommentEnd, hbytes, List.findIdx_cons, hslash]
    exact congrArg (offset + ·) (Nat.add_comm _ 1)
  refine agrees_hidden hbelow hdrop ?_ (.cons rfl (hides_lineComment ('/' :: rest)))
    (Nat.add_pos_left (by decide) _) hnested
  rw [ByteReader.read_passed hturn, hend]

theorem agrees_blockComment (hbelow : AgreesBelow text ('/' :: '*' :: rest))
    (hdrop : text.drop offset = bytes ('/' :: '*' :: rest))
    (hnested : IsNested (.code braces :: outer)) :
    Agrees text offset (.code braces :: outer) ('/' :: '*' :: rest) := by
  have hbytes : bytes ('/' :: '*' :: rest) = '/'.toUInt8 :: '*'.toUInt8 :: bytes rest := by
    rw [bytes_ascii (by decide), bytes_ascii (by decide)]
  have hturn : (⟨offset, .code braces :: outer⟩ : ByteReader).turn text
      = .passed ⟨blockCommentEnd (offset + 2) (bytes rest), .code braces :: outer⟩ :=
    ByteReader.turn_code braces outer (hdrop.trans hbytes)
  refine agrees_hidden hbelow hdrop ?_ (.cons rfl (.cons rfl (hides_blockComment rest)))
    (Nat.add_pos_left (by decide) _) hnested
  have hsizes : '/'.utf8Size = 1 ∧ '*'.utf8Size = 1 := ⟨rfl, rfl⟩
  rw [ByteReader.read_passed hturn, blockCommentEnd_bytes, hsizes.1, hsizes.2]
  congr 2
  omega

theorem agrees_slash (hbelow : AgreesBelow text ('/' :: rest))
    (hdrop : text.drop offset = bytes ('/' :: rest)) (hnested : IsNested (.code braces :: outer)) :
    Agrees text offset (.code braces :: outer) ('/' :: rest) := by
  by_cases hline : rest.head? = some '/'
  · obtain ⟨behind, rfl⟩ := List.head?_eq_some_iff.1 hline
    exact agrees_lineComment hbelow hdrop hnested
  · by_cases hblock : rest.head? = some '*'
    · obtain ⟨behind, rfl⟩ := List.head?_eq_some_iff.1 hblock
      exact agrees_blockComment hbelow hdrop hnested
    · refine agrees_sign (by decide) hbelow hdrop ?_
        (advancePlain_of_plain (by decide) fun _ => ⟨hline, hblock⟩) hnested
      have hlineByte : (bytes rest).head? ≠ some '/'.toUInt8 :=
        fun hhead => hline ((head?_bytes (by decide)).1 hhead)
      have hblockByte : (bytes rest).head? ≠ some '*'.toUInt8 :=
        fun hhead => hblock ((head?_bytes (by decide)).1 hhead)
      rw [ByteReader.turnCode, if_neg (by decide), if_neg (by decide),
        if_neg fun hslash => hlineByte hslash.2, if_neg fun hslash => hblockByte hslash.2,
        if_neg (by decide), if_neg (by decide)]

theorem agrees_closingBrace (hbelow : AgreesBelow text ('\x7d' :: rest))
    (hdrop : text.drop offset = bytes ('\x7d' :: rest)) (hnested : IsNested (.code braces :: outer)) :
    Agrees text offset (.code braces :: outer) ('\x7d' :: rest) := by
  cases braces with
  | succ opened => exact agrees_sign (by decide) hbelow hdrop rfl rfl (hnested.recount opened)
  | zero =>
      cases outer with
      | nil => exact agrees_sign (by decide) hbelow hdrop rfl rfl hnested
      | cons enclosing outer =>
          -- The brace ends an interpolation.
          have hturn : (⟨offset, .code 0 :: enclosing :: outer⟩ : ByteReader).turn text
              = .passed ⟨offset + 1, enclosing :: outer⟩ :=
            ByteReader.turn_code 0 _ (hdrop.trans (bytes_ascii (by decide) rest))
          exact agrees_hidden hbelow hdrop (ByteReader.read_passed hturn) (.cons rfl (.none rfl))
            (by decide) hnested.pop

theorem agrees_plain (hplain : isMark char = false) (hbelow : AgreesBelow text (char :: rest))
    (hdrop : text.drop offset = bytes (char :: rest)) (hnested : IsNested (.code braces :: outer)) :
    Agrees text offset (.code braces :: outer) (char :: rest) := by
  have hstep : ScanState.advancePlain braces outer char rest.head?
      = (.inCode braces outer, true) := by
    unfold ScanState.advancePlain
    split
    case h_7 => rfl
    all_goals exact absurd hplain (by decide)
  by_cases hascii : char.toNat < 128
  · refine agrees_sign hascii hbelow hdrop ?_ hstep hnested
    refine ByteReader.turnCode_plain (fun sign hmark => ?_) _
    refine toUInt8_ne hascii (toNat_lt_of_isMark hmark) ?_
    rintro rfl
    exact absurd hmark (Bool.eq_false_iff.1 hplain)
  · refine agrees_reported hbelow hdrop ?_ hstep hnested
    rw [ByteReader.read_code_beyond (fun byte hbyte => le_of_mem_utf8EncodeChar hascii hbyte) hdrop,
      String.length_utf8EncodeChar]

theorem agrees_code (hbelow : AgreesBelow text (char :: rest))
    (hdrop : text.drop offset = bytes (char :: rest)) (hnested : IsNested (.code braces :: outer)) :
    Agrees text offset (.code braces :: outer) (char :: rest) := by
  by_cases hmark : isMark char = true
  · rcases isMark_iff.1 hmark with rfl | rfl | rfl | rfl | rfl | rfl
    · exact agrees_quoted (Or.inl rfl) hbelow hdrop hnested
    · exact agrees_quoted (Or.inr rfl) hbelow hdrop hnested
    · exact agrees_backquote hbelow hdrop hnested
    · exact agrees_slash hbelow hdrop hnested
    · exact agrees_sign (by decide) hbelow hdrop rfl rfl (hnested.recount (braces + 1))
    · exact agrees_closingBrace hbelow hdrop hnested
  · exact agrees_plain (Bool.eq_false_iff.2 hmark) hbelow hdrop hnested

end Agrees

/-! ### Whole texts -/

variable {text : List UInt8}

/-- **Bytes and characters are read alike** from the beginning of a character on. -/
theorem agrees (offset : Nat) (frames : List Frame) (rest : List Char)
    (hdrop : text.drop offset = bytes rest) (hnested : IsNested frames) :
    Agrees text offset frames rest := by
  induction hlength : rest.length using Nat.strong_induction_on generalizing offset frames rest with
  | _ length ih =>
      subst hlength
      have hbelow : AgreesBelow text rest := fun after hshorter offset frames hdrop hnested =>
        ih after.length hshorter offset frames after hdrop hnested rfl
      cases rest with
      | nil => exact ByteReader.read_end hdrop
      | cons char rest =>
          obtain ⟨inner, outer, rfl⟩ := List.exists_cons_of_ne_nil hnested.ne_nil
          cases inner with
          | code braces => exact agrees_code hbelow hdrop hnested
          | template => exact agrees_template hbelow hdrop hnested

/-! An offset may split a character. What is left of it is beyond ASCII. -/

theorem drop_of_dropBytes {start left : Nat} {chars rest : List Char}
    (hdrop : dropBytes start chars = some (left, rest)) :
    ∃ tail, (bytes chars).drop start = tail ++ bytes rest ∧ tail.length = left
      ∧ ∀ byte ∈ tail, 0x80 ≤ byte := by
  fun_induction dropBytes start chars with
  | case1 chars =>
      cases hdrop
      exact ⟨[], rfl, rfl, by simp⟩
  | case2 => cases hdrop
  | case3 offset char chars hfits ih =>
      obtain ⟨tail, htail, hlength, hbeyond⟩ := ih hdrop
      refine ⟨tail, ?_, hlength, hbeyond⟩
      rw [← htail, bytes_cons, List.drop_append, String.length_utf8EncodeChar,
        List.drop_eq_nil_of_le (by rwa [String.length_utf8EncodeChar]), List.nil_append]
  | case4 offset char chars hsplit =>
      cases hdrop
      refine ⟨(String.utf8EncodeChar char).drop (offset + 1), ?_, ?_, fun byte hbyte =>
        le_of_mem_drop_utf8EncodeChar (Nat.succ_pos offset) hbyte⟩
      · rw [bytes_cons, List.drop_append_of_le_length]
        rw [String.length_utf8EncodeChar]
        omega
      · rw [List.length_drop, String.length_utf8EncodeChar]

theorem drop_of_dropBytes_none {start : Nat} {chars : List Char}
    (hdrop : dropBytes start chars = none) : (bytes chars).drop start = [] := by
  fun_induction dropBytes start chars with
  | case1 => cases hdrop
  | case2 => rfl
  | case3 offset char chars hfits ih =>
      rw [bytes_cons, List.drop_append, String.length_utf8EncodeChar, ih hdrop, List.append_nil,
        List.drop_eq_nil_of_le (by rwa [String.length_utf8EncodeChar])]
  | case4 => cases hdrop

theorem codeBytes_split {source : String} {start left : Nat} {rest : List Char}
    (hdrop : dropBytes start source.toList = some (left, rest)) :
    ∃ tail, (bytes source.toList).drop start = tail ++ bytes rest ∧ tail.length = left
      ∧ (∀ byte ∈ tail, 0x80 ≤ byte)
      ∧ codeBytes source start = (List.range' start left).zip tail
          ++ codeBytesFrom (start + left) (classify .start rest) := by
  obtain ⟨tail, htail, hlength, hbeyond⟩ := drop_of_dropBytes hdrop
  have hsplit : ((source.toList.flatMap String.utf8EncodeChar).drop start).take left = tail := by
    change ((bytes source.toList).drop start).take left = tail
    rw [htail, ← hlength, List.take_left]
  refine ⟨tail, htail, hlength, hbeyond, ?_⟩
  rw [codeBytes, hdrop]
  dsimp only
  rw [hsplit]

/-- **The readers find the same code**, from any offset on. -/
theorem readCode_eq_codeBytes (source : String) (start : Nat) :
    readCode source start = codeBytes source start := by
  rw [readCode_eq]
  cases hdrop : dropBytes start source.toList with
  | none =>
      rw [codeBytes, hdrop]
      exact ByteReader.read_end (drop_of_dropBytes_none hdrop)
  | some split =>
      obtain ⟨left, rest⟩ := split
      obtain ⟨tail, htail, rfl, hbeyond, hcode⟩ := codeBytes_split hdrop
      have hrest : (bytes source.toList).drop (start + tail.length) = bytes rest := by
        rw [← List.drop_drop, htail, List.drop_left]
      have hagrees := agrees (start + tail.length) [.code 0] rest hrest (.single 0)
      rw [hcode, ByteReader.startingAt, ByteReader.read_code_beyond hbeyond htail, hagrees]
      rfl

/-! ### Closing parentheses -/

theorem closingAmong_plain {items : List (Nat × UInt8)}
    (hplain : ∀ item ∈ items, item.2 ≠ '('.toUInt8 ∧ item.2 ≠ ')'.toUInt8) (depth : Nat)
    (rest : List (Nat × UInt8)) :
    closingAmong depth (items ++ rest) = closingAmong depth rest := by
  induction items with
  | nil => rfl
  | cons item items ih =>
      obtain ⟨hopen, hclose⟩ := hplain item List.mem_cons_self
      rw [List.cons_append, closingAmong, if_neg hopen, if_neg hclose]
      exact ih fun other hother => hplain other (List.mem_cons_of_mem _ hother)

/-- **Bytes and characters close a list alike.** -/
theorem closingAmong_classify (state : ScanState) (depth offset : Nat) (rest : List Char) :
    closingAmong depth (codeBytesFrom offset (classify state rest))
      = (closeAfter state depth rest).map fun length => offset + byteLength (rest.take length) := by
  induction rest generalizing state depth offset with
  | nil => rfl
  | cons char rest ih =>
      obtain ⟨next, isCode, hstep⟩ :
          ∃ next isCode, state.advance char rest.head? = (next, isCode) := ⟨_, _, rfl⟩
      have hbehind (depth : Nat) :
          closingAmong depth (codeBytesFrom (offset + char.utf8Size) (classify next rest))
            = ((closeAfter next depth rest).map (· + 1)).map fun length =>
                offset + byteLength ((char :: rest).take length) := by
        rw [ih, Option.map_map]
        congr 1
        funext length
        rw [Function.comp_apply, List.take_succ_cons, byteLength_cons, Nat.add_assoc]
      rw [classify, closeAfter, hstep, codeBytesFrom, String.length_utf8EncodeChar]
      simp only [Bool.and_eq_true, beq_iff_eq]
      cases isCode with
      | false =>
          rw [if_neg Bool.false_ne_true, if_neg fun hopen => Bool.false_ne_true hopen.1,
            if_neg fun hclose => Bool.false_ne_true hclose.1]
          exact hbehind depth
      | true =>
          rw [if_pos rfl]
          by_cases hopen : char = '('
          · subst hopen
            rw [if_pos ⟨rfl, rfl⟩]
            exact hbehind (depth + 1)
          · rw [if_neg fun hparen => hopen hparen.2]
            by_cases hclose : char = ')'
            · subst hclose
              rw [if_pos ⟨rfl, rfl⟩]
              change (if depth - 1 = 0 then some (offset + 1) else closingAmong (depth - 1) _) = _
              by_cases hlast : depth ≤ 1
              · rw [if_pos hlast, if_pos (by omega)]
                rfl
              · rw [if_neg hlast, if_neg (by omega)]
                exact hbehind (depth - 1)
            · rw [if_neg fun hparen => hclose hparen.2, closingAmong_plain fun item hitem => ?_]
              · exact hbehind depth
              · have hbyte := (List.of_mem_zip hitem).2
                exact ⟨ne_of_mem_utf8EncodeChar (by decide) hopen hbyte,
                  ne_of_mem_utf8EncodeChar (by decide) hclose hbyte⟩

/-- **The readers close a list at the same parenthesis**, from any offset on. -/
theorem closingOffset_eq_closingParen (source : String) (start : Nat) :
    closingOffset source start = closingParen source start := by
  rw [closingOffset, readCode_eq_codeBytes, closingParen]
  cases hdrop : dropBytes start source.toList with
  | none =>
      rw [codeBytes, hdrop]
      rfl
  | some split =>
      obtain ⟨left, rest⟩ := split
      obtain ⟨tail, -, -, hbeyond, hcode⟩ := codeBytes_split hdrop
      rw [hcode, closingAmong_plain fun item hitem => ?_, closingAmong_classify]
      · rfl
      · have hbyte := hbeyond item.2 (List.of_mem_zip hitem).2
        exact ⟨ne_of_beyond (by decide) hbyte, ne_of_beyond (by decide) hbyte⟩

end UtilityClasses.Source
