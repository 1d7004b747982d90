import Mathlib.Data.List.Basic
import UtilityClasses.Proofs.Balanced
import UtilityClasses.Proofs.Occurrences
import UtilityClasses.Proofs.Utf8

/-!
# The calls of a text, byte by byte

A call is looked for at every byte offset: the name and an opening parenthesis stand there, the byte
before does not continue the name, and the list is not blank. `siteAt` is what is to be reported for
the offset. The calls found are these, in this order.
-/

namespace UtilityClasses.Source

open UtilityClasses.Text

/-! ### Calls at byte offsets -/

def readsAt (source : String) (offset : Nat) (text : String) : Bool :=
  (bytes text.toList).isPrefixOf ((bytes source.toList).drop offset)

/-- Bytes that continue a name to the left: those of ASCII names and all beyond ASCII. -/
def continuesNameByte (byte : UInt8) : Bool :=
  (Char.ofUInt8 byte).isAlphanum || byte == '_'.toUInt8 || byte == '$'.toUInt8 || 0x80 ≤ byte

def isContinuedAt (source : String) (offset : Nat) : Bool :=
  0 < offset && (bytes source.toList)[offset - 1]?.any continuesNameByte

def isBlankListAt (source : String) (opening : Nat) : Bool :=
  (closingParen source opening).any fun closing =>
    (slice source (opening + 1) (closing - 1)).toList.all isBlank

def isCallAt (source name : String) (offset : Nat) : Bool :=
  readsAt source offset (name ++ "(") && !isContinuedAt source offset &&
    !isBlankListAt source (offset + name.utf8ByteSize)

def siteAt (source name : String) (offset : Nat) : CallSite :=
  let before := (slice source 0 offset).toList
  let line := before.count '\n' + 1
  let column := (before.reverse.takeWhile (· != '\n')).length + 1
  match closingParen source (offset + name.utf8ByteSize) with
  | some closing => ⟨slice source offset closing, line, column, true⟩
  | none => ⟨slice source offset source.utf8ByteSize, line, column, false⟩

/-! ### Places and their offsets -/

def Place.offset (place : Place) : Nat := byteLength place.before

def Place.In (source : String) (place : Place) : Prop :=
  place.before.reverse ++ place.after = source.toList

theorem in_of_mem_placesFrom {source : String} {before text : List Char}
    (hsource : before.reverse ++ text = source.toList) :
    ∀ place ∈ placesFrom before text, place.In source := by
  induction text generalizing before with
  | nil => simp [placesFrom]
  | cons char rest ih =>
      intro place hplace
      rcases List.mem_cons.1 hplace with rfl | hplace
      · exact hsource
      · exact ih (by simpa using hsource) place hplace

variable {source : String} {place : Place}

theorem readsAt_offset (hplace : place.In source) (text : String) :
    readsAt source place.offset text = text.toList.isPrefixOf place.after := by
  rw [Bool.eq_iff_iff, readsAt, ← hplace, Place.offset, ← byteLength_reverse, drop_bytes,
    List.isPrefixOf_iff_prefix, List.isPrefixOf_iff_prefix, bytes_isPrefix]

/-! A character continues a name exactly when its last byte does. -/

theorem continuesNameByte_ascii :
    ∀ code < 128, continuesNameByte (UInt8.ofNat code) = continuesName (Char.ofNat code) := by
  decide +kernel

theorem le_of_not_isUTF8FirstByte {byte : UInt8} (hinside : ¬byte.IsUTF8FirstByte) :
    0x80 ≤ byte := by
  have hall : ∀ code < 256, ¬(UInt8.ofNat code).IsUTF8FirstByte → 0x80 ≤ UInt8.ofNat code := by
    decide +kernel
  simpa using hall byte.toNat byte.toNat_lt (by simpa using hinside)

theorem continuesNameByte_last (char : Char) :
    (String.utf8EncodeChar char)[char.utf8Size - 1]?.any continuesNameByte
      = continuesName char := by
  have hval : char.val.toNat = char.toNat := rfl
  by_cases hascii : char.toNat < 128
  · have hsize : char.utf8Size = 1 := by
      rw [Char.utf8Size_eq_one_iff, UInt32.le_iff_toNat_le, hval]
      exact Nat.le_of_lt_succ hascii
    have hbyte := continuesNameByte_ascii char.toNat hascii
    rw [Char.ofNat_toNat] at hbyte
    rw [String.utf8EncodeChar_eq_singleton hsize, hsize]
    exact hbyte
  · have hsize : char.utf8Size ≠ 1 := by
      rw [ne_eq, Char.utf8Size_eq_one_iff, UInt32.le_iff_toNat_le, hval]
      exact fun hle => hascii (Nat.lt_succ_of_le hle)
    have hpos : 0 < char.utf8Size := char.utf8Size_pos
    have hlast : char.utf8Size - 1 < (String.utf8EncodeChar char).length := by
      rw [String.length_utf8EncodeChar]
      omega
    have hbyte : 0x80 ≤ (String.utf8EncodeChar char)[char.utf8Size - 1] := by
      apply le_of_not_isUTF8FirstByte
      rw [UInt8.isUTF8FirstByte_getElem_utf8EncodeChar]
      omega
    have hcontinues : continuesName char = true := by
      simp [continuesName, Nat.le_of_not_lt hascii]
    rw [List.getElem?_eq_getElem hlast, hcontinues, Option.any_some, continuesNameByte,
      decide_eq_true hbyte, Bool.or_true]

theorem isContinuedAt_offset (hplace : place.In source) :
    isContinuedAt source place.offset = place.before.head?.any continuesName := by
  obtain ⟨before, after⟩ := place
  cases before with
  | nil => rfl
  | cons char rest =>
      have hpos : 0 < char.utf8Size := char.utf8Size_pos
      have hlast : byteLength rest + char.utf8Size - 1 = (bytes rest.reverse).length +
          (char.utf8Size - 1) := by
        rw [length_bytes, byteLength_reverse]
        omega
      have hsource : bytes source.toList
          = bytes rest.reverse ++ (String.utf8EncodeChar char ++ bytes after) := by
        rw [← hplace]
        simp
      rw [isContinuedAt, Place.offset, byteLength_cons, Nat.add_comm, hlast, hsource,
        List.getElem?_append_right (Nat.le_add_right _ _), Nat.add_sub_cancel_left,
        List.getElem?_append_left (by rw [String.length_utf8EncodeChar]; omega),
        continuesNameByte_last]
      simp
      omega

/-! ### The list behind a name -/

theorem closeAfter_split {state : ScanState} {depth length : Nat} {text : List Char}
    (hclose : closeAfter state depth text = some length) :
    ∃ inner after, text = inner ++ ')' :: after ∧ length = inner.length + 1 := by
  induction text generalizing state depth length with
  | nil => simp [closeAfter] at hclose
  | cons char rest ih =>
      have hlater {next : ScanState} {depth : Nat}
          (hrest : (closeAfter next depth rest).map (· + 1) = some length) :
          ∃ inner after, char :: rest = inner ++ ')' :: after ∧ length = inner.length + 1 := by
        obtain ⟨found, hfound, rfl⟩ := Option.map_eq_some_iff.1 hrest
        obtain ⟨inner, after, rfl, rfl⟩ := ih hfound
        exact ⟨char :: inner, after, rfl, rfl⟩
      obtain ⟨next, isCode, hstep⟩ :
          ∃ next isCode, state.advance char rest.head? = (next, isCode) :=
        ⟨_, _, rfl⟩
      simp only [closeAfter, hstep] at hclose
      split at hclose
      · exact hlater hclose
      · split at hclose
        · next hclosing =>
          split at hclose
          · obtain ⟨-, rfl⟩ : _ ∧ char = ')' := by simpa using hclosing
            exact ⟨[], rest, rfl, (Option.some.inj hclose).symm⟩
          · exact hlater hclose
        · exact hlater hclose

theorem listLength_split {rest : List Char} {length : Nat}
    (hlist : listLength ('(' :: rest) = some length) :
    ∃ inner after, rest = inner ++ ')' :: after ∧ length = inner.length + 2 := by
  have hopen : listLength ('(' :: rest) = (closeAfter .start 1 rest).map (· + 1) := rfl
  rw [hopen] at hlist
  obtain ⟨found, hfound, rfl⟩ := Option.map_eq_some_iff.1 hlist
  obtain ⟨inner, after, hrest, rfl⟩ := closeAfter_split hfound
  exact ⟨inner, after, hrest, rfl⟩

/-- What is reported at a place whose list closes behind `inner`. -/
theorem callSiteAt_closed {name inner after : List Char}
    (hafter : place.after = name ++ '(' :: (inner ++ ')' :: after))
    (hlist : listLength ('(' :: (inner ++ ')' :: after)) = some (inner.length + 2)) :
    callSiteAt name place
      = if inner.all isBlank then none
        else some ⟨String.ofList (name ++ '(' :: (inner ++ [')'])), place.line, place.column, true⟩ := by
  rw [callSiteAt, hafter, List.drop_left]
  simp only [hlist]
  rw [take_list, List.take_length_add_append, take_list]
  simp [isBlankList]

/-- What is reported at a place whose list is never closed. -/
theorem callSiteAt_open {name rest : List Char} (hafter : place.after = name ++ '(' :: rest)
    (hlist : listLength ('(' :: rest) = none) :
    callSiteAt name place
      = some ⟨String.ofList place.after, place.line, place.column, false⟩ := by
  rw [callSiteAt, hafter, List.drop_left]
  simp only [hlist]

theorem closingParen_offset {name : String} {list : List Char} (hplace : place.In source)
    (hafter : place.after = name.toList ++ list) :
    closingParen source (place.offset + name.utf8ByteSize)
      = (listLength list).map fun length =>
          place.offset + byteLength (name.toList ++ list.take length) := by
  have hoffset : place.offset + name.utf8ByteSize
      = byteLength (place.before.reverse ++ name.toList) := by
    rw [byteLength_append, byteLength_reverse, byteLength_toList, Place.offset]
  have hsource : source.toList = place.before.reverse ++ name.toList ++ list := by
    rw [← hplace, hafter, List.append_assoc]
  rw [closingParen, hsource, hoffset, dropBytes_byteLength]
  simp only [Nat.add_zero, ← hoffset, byteLength_append, byteLength_toList, Nat.add_assoc]

theorem slice_offset {text after : List Char} (hplace : place.In source)
    (hafter : place.after = text ++ after) :
    slice source place.offset (place.offset + byteLength text) = String.ofList text := by
  have hpiece := slice_eq place.before.reverse text after
  rw [← hafter, hplace, String.ofList_toList, byteLength_reverse] at hpiece
  exact hpiece

theorem slice_before (hplace : place.In source) :
    (slice source 0 place.offset).toList = place.before.reverse := by
  have hpiece := slice_eq [] place.before.reverse place.after
  rw [List.nil_append, hplace, String.ofList_toList, byteLength_nil, byteLength_reverse,
    Nat.zero_add] at hpiece
  rw [Place.offset, hpiece, String.toList_ofList]

theorem utf8ByteSize_offset (hplace : place.In source) :
    source.utf8ByteSize = place.offset + byteLength place.after := by
  rw [← byteLength_toList, ← hplace, byteLength_append, byteLength_reverse, Place.offset]

/-- The offsets between which the items of a list stand, its parentheses being left out. -/
theorem items_offset (place : Place) (name : String) (inner : List Char) :
    place.offset + name.utf8ByteSize + 1
        = byteLength (place.before.reverse ++ name.toList ++ ['('])
      ∧ place.offset + byteLength (name.toList ++ '(' :: (inner ++ [')'])) - 1
        = byteLength (place.before.reverse ++ name.toList ++ ['(']) + byteLength inner := by
  have hparen : ')'.utf8Size = 1 := rfl
  have hparen' : '('.utf8Size = 1 := rfl
  constructor
  · rw [byteLength_append, byteLength_append, byteLength_reverse, byteLength_toList, Place.offset]
    rfl
  · simp only [byteLength_append, byteLength_cons, byteLength_nil, byteLength_reverse,
      Place.offset, hparen, hparen']
    omega

theorem isBlankListAt_offset {name : String} {inner after : List Char} (hplace : place.In source)
    (hafter : place.after = name.toList ++ '(' :: (inner ++ ')' :: after))
    (hlist : listLength ('(' :: (inner ++ ')' :: after)) = some (inner.length + 2)) :
    isBlankListAt source (place.offset + name.utf8ByteSize) = inner.all isBlank := by
  obtain ⟨hopen, hclose⟩ := items_offset place name inner
  have hsource : String.ofList
      (place.before.reverse ++ name.toList ++ ['('] ++ (inner ++ ')' :: after))
      = source := by
    rw [← String.ofList_toList (s := source), ← hplace, hafter]
    simp
  rw [isBlankListAt, closingParen_offset hplace hafter, hlist]
  simp only [Option.map_some, Option.any_some, take_list]
  rw [hopen, hclose, ← hsource, slice_eq, String.toList_ofList]

/-- **What is reported at a place** is what is to be reported at its offset. -/
theorem callSiteAt_offset {name : String} {rest : List Char} (hplace : place.In source)
    (hafter : place.after = name.toList ++ '(' :: rest) :
    callSiteAt name.toList place
      = if isBlankListAt source (place.offset + name.utf8ByteSize) then none
        else some (siteAt source name place.offset) := by
  have hbefore := slice_before hplace
  have hclosing := closingParen_offset hplace hafter
  cases hlist : listLength ('(' :: rest) with
  | none =>
      have hblank : isBlankListAt source (place.offset + name.utf8ByteSize) = false := by
        rw [isBlankListAt, hclosing, hlist]
        rfl
      have hwhole : place.after = place.after ++ [] := (List.append_nil _).symm
      have htext := slice_offset hplace hwhole
      rw [← utf8ByteSize_offset hplace] at htext
      rw [hblank, if_neg Bool.false_ne_true, callSiteAt_open hafter hlist, siteAt, hbefore, hclosing,
        hlist]
      simp [Place.line, Place.column, htext]
  | some length =>
      obtain ⟨inner, after, rfl, rfl⟩ := listLength_split hlist
      have hblank := isBlankListAt_offset hplace hafter hlist
      have hpiece : place.after = (name.toList ++ '(' :: (inner ++ [')'])) ++ after := by
        simpa using hafter
      have htext := slice_offset hplace hpiece
      rw [hblank, callSiteAt_closed hafter hlist, siteAt, hbefore, hclosing, hlist]
      simp only [Option.map_some, take_list, htext]
      simp [Place.line, Place.column]

/-! ### Every offset -/

theorem append_singleton_prefix {name after : List Char} {char : Char} :
    name ++ [char] <+: after ↔ name <+: after ∧ (after.drop name.length).head? = some char := by
  constructor
  · rintro ⟨rest, rfl⟩
    simp
  · rintro ⟨⟨rest, rfl⟩, hhead⟩
    rw [List.drop_left, List.head?_eq_some_iff] at hhead
    obtain ⟨rest, rfl⟩ := hhead
    exact ⟨rest, by simp⟩

theorem isCallPlace_iff {name : List Char} :
    isCallPlace name place = true
      ↔ name ++ ['('] <+: place.after ∧ place.before.head?.any continuesName = false := by
  rw [isCallPlace, isCallStart, append_singleton_prefix]
  simp only [Bool.and_eq_true, List.isPrefixOf_iff_prefix, Bool.not_eq_true', beq_iff_eq]
  constructor
  · rintro ⟨hname, hfree, hopen⟩
    exact ⟨⟨hname, hopen⟩, hfree⟩
  · rintro ⟨⟨hname, hopen⟩, hfree⟩
    exact ⟨hname, hfree, hopen⟩

theorem isCallPlace_offset {name : String} (hplace : place.In source) :
    isCallPlace name.toList place
      = (readsAt source place.offset (name ++ "(") && !isContinuedAt source place.offset) := by
  have hcall : (name ++ "(").toList = name.toList ++ ['('] := by simp
  rw [readsAt_offset hplace, isContinuedAt_offset hplace, hcall, Bool.eq_iff_iff, isCallPlace_iff]
  simp only [Bool.and_eq_true, List.isPrefixOf_iff_prefix, Bool.not_eq_true']

theorem exists_list_of_isCallPlace {name : List Char} (hstart : isCallPlace name place = true) :
    ∃ rest, place.after = name ++ '(' :: rest := by
  obtain ⟨rest, hrest⟩ := (isCallPlace_iff.1 hstart).1
  exact ⟨rest, by simpa using hrest.symm⟩

/-- Nothing is read at an offset inside a character. -/
theorem readsAt_inside {before rest : List Char} {char : Char} {call : String} (offset : Nat)
    (hsource : before.reverse ++ char :: rest = source.toList) (hcall : call ≠ "")
    (hpos : 0 < offset) (hinside : offset < char.utf8Size) :
    readsAt source (byteLength before + offset) call = false := by
  have hdrop : (bytes source.toList).drop (byteLength before + offset)
      = (String.utf8EncodeChar char).drop offset ++ bytes rest := by
    rw [← hsource, ← byteLength_reverse, ← List.drop_drop, drop_bytes, bytes_cons,
      List.drop_append_of_le_length (by rw [String.length_utf8EncodeChar]; omega)]
  rw [readsAt, hdrop, Bool.eq_false_iff, ne_eq, List.isPrefixOf_iff_prefix]
  exact not_bytes_prefix_inside hpos hinside (by simpa using hcall) _

/-- What is read somewhere is read at the offset of a place. -/
theorem filter_range_offsets {before text : List Char} {holds : Nat → Bool} {call : String}
    (hcall : call ≠ "") (hreads : ∀ offset, holds offset = true → readsAt source offset call = true)
    (hsource : before.reverse ++ text = source.toList) :
    (List.range' (byteLength before) (byteLength text)).filter holds
      = ((placesFrom before text).map Place.offset).filter holds := by
  induction text generalizing before with
  | nil => rfl
  | cons char rest ih =>
      obtain ⟨size, hsize⟩ : ∃ size, char.utf8Size = size + 1 :=
        ⟨char.utf8Size - 1, (Nat.sub_add_cancel char.utf8Size_pos).symm⟩
      -- Of the bytes of a character only the first can be the offset of a place.
      have hinside : (List.range' (byteLength before + 1) size).filter holds = [] := by
        rw [List.filter_eq_nil_iff]
        intro offset hoffset hholds
        obtain ⟨hlower, hupper⟩ := List.mem_range'_1.1 hoffset
        have hread := readsAt_inside (offset - byteLength before) hsource hcall (by omega)
          (by omega)
        rw [Nat.add_sub_cancel' (by omega), hreads offset hholds] at hread
        exact absurd hread (by simp)
      have hbehind : (char :: before).reverse ++ rest = source.toList := by simpa using hsource
      have hrest := ih hbehind
      have hsplit : List.range' (byteLength before) (byteLength (char :: rest))
          = byteLength before :: (List.range' (byteLength before + 1) size
              ++ List.range' (byteLength (char :: before)) (byteLength rest)) := by
        rw [byteLength_cons, byteLength_cons, Nat.add_comm char.utf8Size (byteLength before),
          ← List.range'_append_1, hsize, List.range'_succ, List.cons_append]
      rw [hsplit, List.filter_cons, List.filter_append, hinside, hrest, placesFrom, List.map_cons,
        List.filter_cons]
      rfl

/-- **The calls found are exactly the calls of the text**, in the order of their offsets. -/
theorem callSites_exact (source : String) {name : String} (hname : isIdentifier name = true) :
    callSites source name
      = ((List.range source.utf8ByteSize).filter (isCallAt source name)).map
          (siteAt source name) := by
  have hcall : name ++ "(" ≠ "" := by simp
  have hplaces : ∀ place ∈ placesFrom [] source.toList, place.In source := in_of_mem_placesFrom rfl
  have hoffsets : (List.range source.utf8ByteSize).filter (isCallAt source name)
      = ((placesFrom [] source.toList).map Place.offset).filter (isCallAt source name) := by
    have hstart : [].reverse ++ source.toList = source.toList := rfl
    have hreads : ∀ offset, isCallAt source name offset = true →
        readsAt source offset (name ++ "(") = true := by
      intro offset hoffset
      rw [isCallAt, Bool.and_eq_true, Bool.and_eq_true] at hoffset
      exact hoffset.1.1
    have hfilter := filter_range_offsets hcall hreads hstart
    rw [List.range_eq_range', ← byteLength_toList]
    exact hfilter
  rw [callSites_eq_places source hname, hoffsets, List.filter_map, List.map_map,
    ← List.filterMap_eq_map, List.filterMap_filter, List.filterMap_filter]
  refine List.filterMap_congr fun place hmem => ?_
  have hplace := hplaces place hmem
  rw [Function.comp_apply, isCallAt, ← isCallPlace_offset hplace]
  cases hstart : isCallPlace name.toList place with
  | false => rfl
  | true =>
      obtain ⟨rest, hafter⟩ := exists_list_of_isCallPlace hstart
      rw [if_pos rfl, callSiteAt_offset hplace hafter]
      cases isBlankListAt source (place.offset + name.utf8ByteSize) <;> rfl

/-- The name overlaps itself, the second call opens in the list of the first, and the third is
blank. -/
theorem callSites_exact_overlapping :
    let source := "(aa(é aa(1)),aaa(2)aa( )"
    isIdentifier "aa" = true
      ∧ callSites source "aa"
        = ((List.range 25).filter (isCallAt source "aa")).map (siteAt source "aa")
      ∧ (List.range 25).filter (isCallAt source "aa") = [1, 7] := by
  intro source
  have hname : isIdentifier "aa" = true := by decide
  exact ⟨hname, callSites_exact _ hname, by decide +kernel⟩

end UtilityClasses.Source
