import UtilityClasses.Proofs.Compositional

/-!
# Code consists of whole characters

A character is code with all of its bytes or with none. So the offsets of the code, read from the
beginning of a character on, are those of some characters of the text, and a run of them begins and
ends between two characters.
-/

namespace UtilityClasses.Source

open UtilityClasses.Text

/-! ### Bytes of classified text -/

theorem codeBytesFrom_code (position : Nat) (text : List Char) (following : List (Char × Bool)) :
    codeBytesFrom position (text.map (·, true) ++ following)
      = (List.range' position (byteLength text)).zip (bytes text)
        ++ codeBytesFrom (position + byteLength text) following := by
  induction text generalizing position with
  | nil => rfl
  | cons char rest ih =>
      have hsize : (String.utf8EncodeChar char).length = char.utf8Size :=
        String.length_utf8EncodeChar char
      rw [List.map_cons, List.cons_append, codeBytesFrom, if_pos rfl, hsize, ih, byteLength_cons,
        bytes_cons, ← List.range'_append_1, List.zip_append (by simp), List.append_assoc,
        Nat.add_assoc]

theorem codeBytesFrom_hidden (position : Nat) (text : List Char) (following : List (Char × Bool)) :
    codeBytesFrom position (text.map (·, false) ++ following)
      = codeBytesFrom (position + byteLength text) following := by
  induction text generalizing position with
  | nil => rfl
  | cons char rest ih =>
      rw [List.map_cons, List.cons_append, codeBytesFrom, if_neg Bool.false_ne_true, ih,
        String.length_utf8EncodeChar, byteLength_cons, Nat.add_assoc]

/-! ### Boundaries between characters -/

/-- Whether an offset is in front of a character or at the end of the text. -/
def IsBoundary (source : String) (offset : Nat) : Prop :=
  String.Pos.Raw.IsValid source ⟨offset⟩

instance (source : String) (offset : Nat) : Decidable (IsBoundary source offset) :=
  inferInstanceAs (Decidable (String.Pos.Raw.IsValid source ⟨offset⟩))

theorem isBoundary_iff {source : String} {offset : Nat} :
    IsBoundary source offset
      ↔ ∃ before after, source.toList = before ++ after ∧ offset = byteLength before := by
  rw [IsBoundary, String.Pos.Raw.isValid_iff_exists_append]
  constructor
  · rintro ⟨before, after, rfl, hoffset⟩
    refine ⟨before.toList, after.toList, String.toList_append, ?_⟩
    rw [byteLength_toList]
    exact congrArg String.Pos.Raw.byteIdx hoffset
  · rintro ⟨before, after, hsource, rfl⟩
    refine ⟨String.ofList before, String.ofList after, ?_, ?_⟩
    · rw [← String.ofList_append, ← hsource, String.ofList_toList]
    · rw [String.Pos.Raw.ext_iff, String.byteIdx_rawEndPos, ← byteLength_toList,
        String.toList_ofList]

variable {source : String} {place : Place} {offsets : List Nat} {first last start : Nat}

theorem Place.In.isBoundary (hplace : place.In source) : IsBoundary source place.offset :=
  isBoundary_iff.2 ⟨place.before.reverse, place.after, hplace.symm,
    (byteLength_reverse place.before).symm⟩

/-! ### Whole characters -/

/-- The offsets of the bytes of the character at a place. -/
def Place.span (place : Place) : List Nat :=
  List.range' place.offset (byteLength (place.after.take 1))

/-- Whether offsets are those of characters of the text, each with all of its bytes. -/
def IsWhole (source : String) (offsets : List Nat) : Prop :=
  ∃ chosen : List Place, chosen.Sublist (placesFrom [] source.toList)
    ∧ offsets = chosen.flatMap Place.span

/-- Neighbouring offsets, from `first` up to but not with `last`, that no other one adjoins. -/
structure IsRun (offsets : List Nat) (first last : Nat) : Prop where
  filled : first < last
  inside : ∀ offset, first ≤ offset → offset < last → offset ∈ offsets
  begins : 0 < first → first - 1 ∉ offsets
  ends : last ∉ offsets

/-- What stands at a place ends at a boundary. -/
theorem Place.In.isBoundary_behind (hplace : place.In source) :
    IsBoundary source (place.offset + byteLength (place.after.take 1)) := by
  refine isBoundary_iff.2 ⟨place.before.reverse ++ place.after.take 1, place.after.drop 1, ?_, ?_⟩
  · rw [List.append_assoc, List.take_append_drop, hplace]
  · rw [byteLength_append, byteLength_reverse, Place.offset]

/-- **A run of whole characters begins and ends at a boundary.** -/
theorem IsWhole.isBoundary (hwhole : IsWhole source offsets) (hrun : IsRun offsets first last) :
    IsBoundary source first ∧ IsBoundary source last := by
  obtain ⟨chosen, hchosen, rfl⟩ := hwhole
  -- An offset of the run belongs to a character, and so do the other bytes of the character.
  have hspan {offset : Nat} (hlower : first ≤ offset) (hupper : offset < last) :
      ∃ place ∈ chosen, place.In source ∧ place.offset ≤ offset
        ∧ offset < place.offset + byteLength (place.after.take 1) := by
    obtain ⟨place, hplace, hoffset⟩ := List.mem_flatMap.1 (hrun.inside offset hlower hupper)
    have hin := in_of_mem_placesFrom rfl place (hchosen.subset hplace)
    exact ⟨place, hplace, hin, List.mem_range'_1.1 hoffset⟩
  have hmem {place : Place} (hplace : place ∈ chosen) {offset : Nat}
      (hlower : place.offset ≤ offset)
      (hupper : offset < place.offset + byteLength (place.after.take 1)) :
      offset ∈ chosen.flatMap Place.span :=
    List.mem_flatMap.2 ⟨place, hplace, List.mem_range'_1.2 ⟨hlower, hupper⟩⟩
  have hfilled := hrun.filled
  constructor
  · obtain ⟨place, hplace, hin, hlower, hupper⟩ := hspan (Nat.le_refl first) hfilled
    obtain rfl : place.offset = first := by
      by_contra hne
      exact hrun.begins (by omega) (hmem hplace (by omega) (by omega))
    exact hin.isBoundary
  · obtain ⟨place, hplace, hin, hlower, hupper⟩ :=
      hspan (Nat.le_sub_one_of_lt hfilled) (Nat.sub_one_lt_of_lt hfilled)
    obtain rfl : place.offset + byteLength (place.after.take 1) = last := by
      by_contra hne
      exact hrun.ends (hmem hplace (by omega) (by omega))
    exact hin.isBoundary_behind

/-- Each character is classified as a whole. -/
theorem exists_chosen (state : ScanState) (before text : List Char) :
    ∃ chosen : List Place, chosen.Sublist (placesFrom before text)
      ∧ (codeBytesFrom (byteLength before) (classify state text)).map Prod.fst
        = chosen.flatMap Place.span := by
  induction text generalizing state before with
  | nil => exact ⟨[], List.nil_sublist _, rfl⟩
  | cons char rest ih =>
      obtain ⟨next, isCode, hstep⟩ :
          ∃ next isCode, state.advance char rest.head? = (next, isCode) := ⟨_, _, rfl⟩
      obtain ⟨chosen, hchosen, hoffsets⟩ := ih next (char :: before)
      have hsize : (String.utf8EncodeChar char).length = char.utf8Size :=
        String.length_utf8EncodeChar char
      rw [byteLength_cons, Nat.add_comm] at hoffsets
      rw [classify, hstep, placesFrom, codeBytesFrom, hsize]
      cases isCode with
      | false => exact ⟨chosen, hchosen.cons _, hoffsets⟩
      | true =>
          refine ⟨⟨before, char :: rest⟩ :: chosen, hchosen.cons_cons _, ?_⟩
          have hspan : Place.span ⟨before, char :: rest⟩
              = List.range' (byteLength before) char.utf8Size := rfl
          rw [if_pos rfl, List.map_append, List.map_fst_zip (by simp [hsize]), hoffsets,
            List.flatMap_cons, hspan]

/-- **Code consists of whole characters**, read from a boundary on. -/
theorem isWhole_codeBytes (hstart : IsBoundary source start) :
    IsWhole source ((codeBytes source start).map Prod.fst) := by
  obtain ⟨before, text, hsource, rfl⟩ := isBoundary_iff.1 hstart
  obtain ⟨chosen, hchosen, hoffsets⟩ := exists_chosen .start before.reverse text
  refine ⟨chosen, ?_, ?_⟩
  · rw [hsource, placesFrom_append, List.append_nil]
    exact hchosen.trans (List.sublist_append_right _ _)
  · rw [← hoffsets, codeBytes, hsource, dropBytes_byteLength, byteLength_reverse]
    rfl

end UtilityClasses.Source
