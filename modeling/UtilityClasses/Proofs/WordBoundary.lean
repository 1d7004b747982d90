import UtilityClasses.Proofs.Compositional
import UtilityClasses.Proofs.LiteralCall

/-!
# White space in front of a call

A call may stand behind white space or a byte-order mark. It is found behind those that are ASCII
characters. Every character beyond ASCII counts as one that a name may go on with, so behind any
other white space the call is lost.
-/

namespace UtilityClasses.Source

open UtilityClasses.Text

/-- White space of any script, and the mark that may stand at the beginning of a text. -/
def IsSpace (char : Char) : Prop := isBlank char = true ∨ char = '\uFEFF'

variable {source name : String} {place other : Place} {space : Char}

/-- In one text a place is known by its offset. -/
theorem Place.In.eq_of_offset (hplace : place.In source) (hother : other.In source)
    (hoffset : place.offset = other.offset) : place = other := by
  have hdrop {found : Place} (hfound : found.In source) :
      dropBytes found.offset source.toList = some (0, found.after) := by
    rw [← hfound, Place.offset, ← byteLength_reverse, dropBytes_byteLength]
  have hafter : place.after = other.after := by
    have hboth := (hdrop hplace).symm.trans (hoffset ▸ hdrop hother)
    simpa using hboth
  have hbefore : place.before.reverse = other.before.reverse := by
    have hboth := hplace.trans hother.symm
    rw [hafter] at hboth
    exact List.append_cancel_right hboth
  obtain ⟨before, after⟩ := place
  obtain ⟨otherBefore, otherAfter⟩ := other
  rw [Place.mk.injEq]
  exact ⟨List.reverse_injective hbefore, hafter⟩

/-- A call is found at a place exactly when one is to be reported there. -/
theorem exists_locatedCall_iff (hname : isIdentifier name = true)
    (hmem : place ∈ placesFrom [] source.toList) :
    (∃ call ∈ locatedCalls source name, call.offset = place.offset)
      ↔ (reportAt name.toList place).isSome = true := by
  rw [locatedCalls_eq_reports source hname]
  constructor
  · rintro ⟨call, hcall, hoffset⟩
    obtain ⟨found, hfound, hreport⟩ := List.mem_filterMap.1 hcall
    obtain ⟨site, hsite, rfl⟩ := Option.map_eq_some_iff.1 hreport
    have hsame : found = place :=
      (in_of_mem_placesFrom rfl found hfound).eq_of_offset
        (in_of_mem_placesFrom rfl place hmem) hoffset
    rw [← hsame, hsite]
    rfl
  · intro hsome
    obtain ⟨site, hsite⟩ := Option.isSome_iff_exists.1 hsome
    refine ⟨⟨place.offset, site⟩, List.mem_filterMap.2 ⟨place, hmem, ?_⟩, rfl⟩
    rw [hsite]
    rfl

/-- Of white space only what is beyond ASCII counts as part of a name. -/
theorem continuesName_of_isSpace (hspace : IsSpace space) :
    continuesName space = true ↔ 128 ≤ space.toNat := by
  constructor
  · intro hcontinues
    by_contra hascii
    have hnone : ∀ code < 128, isBlank (Char.ofNat code) = true →
        continuesName (Char.ofNat code) = false := by
      decide +kernel
    rcases hspace with hblank | rfl
    · have hfree := hnone space.toNat (Nat.lt_of_not_le hascii)
      rw [Char.ofNat_toNat] at hfree
      rw [hfree hblank] at hcontinues
      exact Bool.false_ne_true hcontinues
    · exact hascii (by decide)
  · intro hbeyond
    simp [continuesName, hbeyond]

/-- Where a name and a list that is not blank stand, a call is reported unless the name goes on to
the left. -/
theorem isSome_reportAt_iff {rest : List Char} (hplace : place.In source)
    (hafter : place.after = name.toList ++ '(' :: rest)
    (hfilled : isBlankListAt source (place.offset + name.utf8ByteSize) = false) :
    (reportAt name.toList place).isSome = true
      ↔ place.before.head?.any continuesName = false := by
  have hopens : name.toList ++ ['('] <+: place.after := ⟨rest, by simp [hafter]⟩
  have hreport := callSiteAt_offset hplace hafter
  rw [hfilled, if_neg Bool.false_ne_true] at hreport
  rw [reportAt, hreport]
  constructor
  · intro hsome
    by_contra hfree
    rw [if_neg (mt isCallPlace_iff.1 fun hcall => hfree hcall.2)] at hsome
    exact Bool.false_ne_true hsome
  · intro hfree
    rw [if_pos (isCallPlace_iff.2 ⟨hopens, hfree⟩)]
    rfl

/-- **A call behind white space is found exactly when the white space is an ASCII character**, in
any text around it and whether or not its list is closed, as long as the list is not blank. -/
theorem callSites_behind_space_iff {name : String} (hname : isIdentifier name = true) {space : Char}
    (hspace : IsSpace space) {before rest : String}
    (hfilled : isBlankListAt (before ++ space.toString ++ name ++ "(" ++ rest)
      ((before ++ space.toString).utf8ByteSize + name.utf8ByteSize) = false) :
    (∃ call ∈ locatedCalls (before ++ space.toString ++ name ++ "(" ++ rest) name,
        call.offset = (before ++ space.toString).utf8ByteSize)
      ↔ space.toNat < 128 := by
  let place : Place := ⟨space :: before.toList.reverse, name.toList ++ '(' :: rest.toList⟩
  have hsource : (before ++ space.toString ++ name ++ "(" ++ rest).toList
      = (before.toList ++ [space]) ++ (name.toList ++ '(' :: rest.toList) := by
    simp
  have hmem : place ∈ placesFrom [] (before ++ space.toString ++ name ++ "(" ++ rest).toList := by
    have hany := mem_placesFrom (by simp : name.toList ++ '(' :: rest.toList ≠ []) []
      (before.toList ++ [space])
    rw [hsource]
    simpa [place] using hany
  have hoffset : (before ++ space.toString).utf8ByteSize = place.offset := by
    rw [← byteLength_toList, ← byteLength_reverse]
    simp [place, Place.offset]
  have hcontinued : place.before.head?.any continuesName = continuesName space := rfl
  rw [hoffset] at hfilled ⊢
  rw [exists_locatedCall_iff hname hmem,
    isSome_reportAt_iff (in_of_mem_placesFrom rfl place hmem) rfl hfilled, hcontinued,
    ← Bool.not_eq_true, continuesName_of_isSpace hspace, Nat.not_le]

/-- A call stands behind a line feed and another one, which is never closed, behind an ideographic
space. Only the first one is found. -/
theorem callSites_behind_space_of_both_kinds :
    isIdentifier "tc" = true ∧ IsSpace '\n' ∧ IsSpace '\u3000'
      ∧ (∃ call ∈ locatedCalls ("it's" ++ '\n'.toString ++ "tc" ++ "(" ++ "a)\u3000tc(b") "tc",
          call.offset = ("it's" ++ '\n'.toString).utf8ByteSize)
      ∧ ¬∃ call ∈ locatedCalls ("it's\ntc(a)" ++ '\u3000'.toString ++ "tc" ++ "(" ++ "b") "tc",
          call.offset = ("it's\ntc(a)" ++ '\u3000'.toString).utf8ByteSize := by
  have hname : isIdentifier "tc" = true := by decide
  have hfeed : IsSpace '\n' := Or.inl (by decide)
  have hwide : IsSpace '\u3000' := Or.inl (by decide)
  refine ⟨hname, hfeed, hwide, (callSites_behind_space_iff hname hfeed ?_).2 (by decide), ?_⟩
  · decide +kernel
  · exact mt (callSites_behind_space_iff hname hwide (by decide +kernel)).1 (by decide)

/-- The text begins with a no-break space, and nothing else stands in front of its call. -/
theorem noBreakSpace_hides_call :
    let source := "\u00a0tc('a')"
    IsSpace '\u00a0' ∧ readsAt source '\u00a0'.utf8Size "tc(" = true
      ∧ isBlankListAt source ('\u00a0'.utf8Size + "tc".utf8ByteSize) = false
      ∧ callSites source "tc" = []
      ∧ callSites " tc('a')" "tc" = [⟨"tc('a')", 1, 2, true⟩] :=
  ⟨Or.inl (by decide), by decide +kernel, by decide +kernel, by decide +kernel,
    by decide +kernel⟩

end UtilityClasses.Source
