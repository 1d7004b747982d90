import UtilityClasses.Text.Utf8

/-!
# Texts as UTF-8 bytes

A byte offset that counts whole characters splits a text between two of them. The bytes of a text
are found only where its characters stand: no character begins inside another one.
-/

namespace UtilityClasses.Text

@[simp]
theorem byteLength_nil : byteLength [] = 0 := rfl

@[simp]
theorem byteLength_cons (char : Char) (text : List Char) :
    byteLength (char :: text) = char.utf8Size + byteLength text := rfl

@[simp]
theorem byteLength_append (left right : List Char) :
    byteLength (left ++ right) = byteLength left + byteLength right := by
  induction left with
  | nil => simp
  | cons char rest ih => rw [List.cons_append, byteLength_cons, byteLength_cons, ih, Nat.add_assoc]

theorem byteLength_reverse (text : List Char) : byteLength text.reverse = byteLength text := by
  induction text with
  | nil => rfl
  | cons char rest ih =>
      rw [List.reverse_cons, byteLength_append, ih, byteLength_cons, byteLength_cons, byteLength_nil,
        Nat.add_zero, Nat.add_comm]

theorem byteLength_toList (text : String) : byteLength text.toList = text.utf8ByteSize := by
  rw [← String.size_toByteArray, ← String.utf8Encode_toList]
  induction text.toList with
  | nil => rfl
  | cons char rest ih =>
      rw [byteLength_cons, ih, ← List.singleton_append, List.utf8Encode_append,
        List.utf8Encode_singleton]
      simp

/-- Counting the bytes of a piece of text leads to the end of the piece. -/
theorem dropBytes_byteLength (before after : List Char) :
    dropBytes (byteLength before) (before ++ after) = some (0, after) := by
  induction before with
  | nil => simp [dropBytes]
  | cons char rest ih =>
      have hsize : 0 < char.utf8Size := char.utf8Size_pos
      obtain ⟨offset, hoffset⟩ : ∃ offset, byteLength (char :: rest) = offset + 1 :=
        ⟨byteLength (char :: rest) - 1, by rw [byteLength_cons]; omega⟩
      have hfits : char.utf8Size ≤ offset + 1 := by
        rw [← hoffset, byteLength_cons]
        omega
      rw [hoffset, List.cons_append, dropBytes, if_pos hfits, ← hoffset, byteLength_cons,
        Nat.add_sub_cancel_left]
      exact ih

/-! ### The bytes of a text -/

def bytes (text : List Char) : List UInt8 := text.flatMap String.utf8EncodeChar

@[simp]
theorem bytes_cons (char : Char) (text : List Char) :
    bytes (char :: text) = String.utf8EncodeChar char ++ bytes text := by
  simp [bytes]

@[simp]
theorem bytes_append (left right : List Char) :
    bytes (left ++ right) = bytes left ++ bytes right := by
  simp [bytes]

@[simp]
theorem length_bytes (text : List Char) : (bytes text).length = byteLength text := by
  induction text with
  | nil => rfl
  | cons char rest ih =>
      rw [bytes_cons, List.length_append, ih, String.length_utf8EncodeChar, byteLength_cons]

theorem drop_bytes (before after : List Char) :
    (bytes (before ++ after)).drop (byteLength before) = bytes after := by
  rw [bytes_append, ← length_bytes, List.drop_left]

/-- A text that begins with the bytes of a character begins with the character. -/
theorem eq_of_utf8EncodeChar_append {first second : Char} {left right : List UInt8}
    (hbytes : String.utf8EncodeChar first ++ left = String.utf8EncodeChar second ++ right) :
    first = second := by
  have hfirst := ByteArray.utf8DecodeChar?_utf8EncodeChar_append (b := left.toByteArray)
    (c := first)
  rw [← List.toByteArray_append, hbytes, List.toByteArray_append,
    ByteArray.utf8DecodeChar?_utf8EncodeChar_append] at hfirst
  exact (Option.some.inj hfirst).symm

/-- The bytes of a text begin those of another one exactly when its characters do. -/
theorem bytes_isPrefix {left right : List Char} : bytes left <+: bytes right ↔ left <+: right := by
  constructor
  · intro hprefix
    induction left generalizing right with
    | nil => exact List.nil_prefix
    | cons char left ih =>
        obtain ⟨rest, hrest⟩ := hprefix
        cases right with
        | nil =>
            have hlength := congrArg List.length hrest
            have hsize : 0 < char.utf8Size := char.utf8Size_pos
            rw [bytes_cons, List.length_append, List.length_append, String.length_utf8EncodeChar]
              at hlength
            simp only [bytes, List.flatMap_nil, List.length_nil] at hlength
            omega
        | cons other right =>
            rw [bytes_cons, bytes_cons, List.append_assoc] at hrest
            obtain rfl := eq_of_utf8EncodeChar_append hrest
            exact List.cons_prefix_cons.2 ⟨rfl, ih ⟨rest, List.append_cancel_left hrest⟩⟩
  · rintro ⟨rest, rfl⟩
    exact ⟨bytes rest, (bytes_append left rest).symm⟩

/-- No text begins inside a character. -/
theorem not_bytes_prefix_inside {char : Char} {offset : Nat} (hpos : 0 < offset)
    (hinside : offset < char.utf8Size) {text : List Char} (hne : text ≠ []) (rest : List UInt8) :
    ¬bytes text <+: (String.utf8EncodeChar char).drop offset ++ rest := by
  rintro ⟨after, hafter⟩
  obtain ⟨first, tail, rfl⟩ := List.exists_cons_of_ne_nil hne
  have hoffset : offset < (String.utf8EncodeChar char).length := by simpa using hinside
  have hzero : 0 < (String.utf8EncodeChar first).length := by simp [first.utf8Size_pos]
  have hbyte : (String.utf8EncodeChar first)[0] = (String.utf8EncodeChar char)[offset] := by
    have hhead := congrArg (·[0]?) hafter
    have hleft : 0 < char.utf8Size - offset := by omega
    simpa [List.getElem?_append, first.utf8Size_pos, hleft] using hhead
  have hfirst : (String.utf8EncodeChar char)[offset].IsUTF8FirstByte := by
    rw [← hbyte]
    exact UInt8.isUTF8FirstByte_getElem_zero_utf8EncodeChar
  exact absurd (UInt8.isUTF8FirstByte_getElem_utf8EncodeChar.1 hfirst) (by omega)

/-! ### Pieces of a text -/

def slice (source : String) (first last : Nat) : String :=
  String.Pos.Raw.extract source ⟨first⟩ ⟨last⟩

theorem pos_ne {first last : Nat} (hlt : first < last) :
    (⟨first⟩ : String.Pos.Raw) ≠ ⟨last⟩ :=
  fun heq => absurd (congrArg String.Pos.Raw.byteIdx heq) (Nat.ne_of_lt hlt)

theorem skip_cons (char : Char) (rest : List Char) (offset first last : String.Pos.Raw) :
    String.Pos.Raw.extract.go₁ (char :: rest) offset first last
      = if offset = first then String.Pos.Raw.extract.go₂ (char :: rest) offset last
        else String.Pos.Raw.extract.go₁ rest (offset + char) first last := rfl

theorem take_cons (char : Char) (rest : List Char) (offset last : String.Pos.Raw) :
    String.Pos.Raw.extract.go₂ (char :: rest) offset last
      = if offset = last then [] else char :: String.Pos.Raw.extract.go₂ rest (offset + char) last :=
  rfl

theorem extract_skip (before after : List Char) (offset : Nat) (last : String.Pos.Raw) :
    String.Pos.Raw.extract.go₁ (before ++ after) ⟨offset⟩ ⟨offset + byteLength before⟩ last
      = String.Pos.Raw.extract.go₁ after ⟨offset + byteLength before⟩
          ⟨offset + byteLength before⟩ last := by
  induction before generalizing offset with
  | nil => rfl
  | cons char rest ih =>
      have hsize : 0 < char.utf8Size := char.utf8Size_pos
      have hrest := ih (offset + char.utf8Size)
      rw [byteLength_cons, ← Nat.add_assoc, List.cons_append, skip_cons, if_neg (pos_ne (by omega))]
      exact hrest

theorem extract_take (middle after : List Char) (offset : Nat) :
    String.Pos.Raw.extract.go₂ (middle ++ after) ⟨offset⟩ ⟨offset + byteLength middle⟩
      = middle := by
  induction middle generalizing offset with
  | nil =>
      cases after with
      | nil => rfl
      | cons char rest => exact if_pos rfl
  | cons char rest ih =>
      have hsize : 0 < char.utf8Size := char.utf8Size_pos
      have hrest := ih (offset + char.utf8Size)
      rw [byteLength_cons, ← Nat.add_assoc, List.cons_append, take_cons, if_neg (pos_ne (by omega))]
      exact congrArg (char :: ·) hrest

/-- The piece between two offsets that count whole characters is the characters between them. -/
theorem slice_eq (before middle after : List Char) :
    slice (String.ofList (before ++ (middle ++ after))) (byteLength before)
        (byteLength before + byteLength middle)
      = String.ofList middle := by
  have hskip := extract_skip before (middle ++ after) 0 ⟨byteLength before + byteLength middle⟩
  rw [Nat.zero_add] at hskip
  unfold slice String.Pos.Raw.extract
  cases middle with
  | nil => simp
  | cons char rest =>
      have hsize : 0 < char.utf8Size := char.utf8Size_pos
      have hlt : ¬byteLength before ≥ byteLength before + byteLength (char :: rest) := by
        rw [byteLength_cons]
        omega
      dsimp only
      rw [if_neg hlt, String.toList_ofList]
      change String.ofList (String.Pos.Raw.extract.go₁ _ ⟨0⟩ _ _) = _
      rw [hskip, List.cons_append, skip_cons, if_pos rfl, ← List.cons_append, extract_take]

end UtilityClasses.Text
