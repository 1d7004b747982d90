import Mathlib.Data.List.TakeWhile
import Mathlib.Tactic.MkIffOfInductiveProp
import UtilityClasses.Proofs.ByteAgreement
import UtilityClasses.Proofs.Spans

/-!
# No piece is cut out of bounds

The calls of a text are pieces of it between byte offsets. A piece can be cut out where the offsets
are in order, within the text, and between characters; elsewhere cutting fails. `callSites?` looks
for the calls among the bytes of a text and cuts out every piece in this way. It never fails, since
names and parentheses are whole characters wherever they are found among the bytes.
-/

namespace UtilityClasses.Source

open UtilityClasses.Text

/-! ### Cutting at byte offsets -/

/-- Offsets between which a piece can be cut out of a text. -/
@[mk_iff]
structure IsPiece (source : String) (first last : Nat) : Prop where
  ordered : first ≤ last
  inside : last ≤ source.utf8ByteSize
  begins : IsBoundary source first
  ends : IsBoundary source last

instance (source : String) (first last : Nat) : Decidable (IsPiece source first last) :=
  decidable_of_iff _ (isPiece_iff source first last).symm

def piece? (source : String) (first last : Nat) : Option String :=
  if IsPiece source first last then some (slice source first last) else none

/-- The offset at which the last line of a text begins. -/
def lastLine (text : String) : Nat :=
  text.utf8ByteSize - (bytes text.toList).reverse.findIdx (· == '\n'.toUInt8)

/-- What is reported for a call between two offsets. -/
def siteBetween? (source : String) (start last : Nat) (terminated : Bool) : Option CallSite := do
  let before ← piece? source 0 start
  let text ← piece? source start last
  let line ← piece? before (lastLine before) before.utf8ByteSize
  return ⟨text, before.toList.count '\n' + 1, line.length + 1, terminated⟩

/-- The call whose name stands at an offset, unless its list is blank. -/
def callBetween? (source name : String) (start : Nat) : Option (Option CallSite) :=
  let opening := start + name.utf8ByteSize
  match closingOffset source opening with
  | some closing => do
    let items ← piece? source (opening + 1) (closing - 1)
    if items.toList.all isBlank then return none
    return some (← siteBetween? source start closing true)
  | none => do return some (← siteBetween? source start source.utf8ByteSize false)

def isContinued? (source : String) (start : Nat) : Option Bool :=
  if start = 0 then some false else (bytes source.toList)[start - 1]?.map continuesNameByte

/-- Whether a call starts at an offset at which the name was found. -/
def startsCall? (source name : String) (start : Nat) : Option Bool := do
  let opening := start + name.utf8ByteSize
  let continued ← isContinued? source start
  return !continued && (bytes source.toList)[opening]? == some '('.toUInt8
    && piece? source start opening == some name

def callFrom? (source name : String) (start : Nat) : Option (Option CallSite) := do
  if ← startsCall? source name start then callBetween? source name start else return none

/-- The offsets at which bytes stand in a text whose first byte is at `offset`, from left to right
without overlap. `skip` bytes belong to an occurrence already found. -/
def offsetsFrom (name : List UInt8) (offset skip : Nat) : List UInt8 → List Nat
  | [] => []
  | byte :: rest =>
    match skip with
    | skipped + 1 => offsetsFrom name (offset + 1) skipped rest
    | 0 =>
      if name.isPrefixOf (byte :: rest) then
        offset :: offsetsFrom name (offset + 1) (name.length - 1) rest
      else offsetsFrom name (offset + 1) 0 rest

def nameOffsets (source name : String) : List Nat :=
  if name.isEmpty then [] else offsetsFrom (bytes name.toList) 0 0 (bytes source.toList)

/-- The calls of a name, found among the bytes of a text. It is `none` where a piece cannot be cut
out. -/
def callSites? (source name : String) : Option (List CallSite) :=
  (nameOffsets source name).filterMapM (callFrom? source name)

/-! ### Names are found at places -/

section Offsets

variable {name piece rest : List UInt8} {letters : List Char}

theorem offsetsFrom_skipped (offset : Nat) {skip : Nat} (hskip : piece.length ≤ skip) :
    offsetsFrom name offset skip (piece ++ rest)
      = offsetsFrom name (offset + piece.length) (skip - piece.length) rest := by
  induction piece generalizing offset skip with
  | nil => rfl
  | cons byte piece ih =>
      obtain ⟨skipped, rfl⟩ := Nat.exists_eq_add_one.2 (Nat.zero_lt_of_lt hskip)
      have hrest := ih (offset + 1) (Nat.le_of_succ_le_succ hskip)
      rw [List.cons_append, offsetsFrom, hrest, List.length_cons, Nat.add_sub_add_right,
        Nat.add_assoc, Nat.add_comm 1]

theorem offsetsFrom_absent (offset : Nat)
    (habsent : ∀ count < piece.length, ¬name <+: piece.drop count ++ rest) :
    offsetsFrom name offset 0 (piece ++ rest) = offsetsFrom name (offset + piece.length) 0 rest := by
  induction piece generalizing offset with
  | nil => rfl
  | cons byte piece ih =>
      have hhead : ¬name.isPrefixOf (byte :: (piece ++ rest)) = true := by
        rw [List.isPrefixOf_iff_prefix]
        exact habsent 0 (Nat.succ_pos _)
      have hrest := ih (offset + 1) fun count hcount =>
        habsent (count + 1) (Nat.succ_lt_succ hcount)
      rw [List.cons_append, offsetsFrom, if_neg hhead, hrest, List.length_cons, Nat.add_assoc,
        Nat.add_comm 1]

/-! One character after the other. -/

theorem offsetsFrom_char_skipped (offset skip : Nat) (char : Char) (text : List Char) :
    offsetsFrom name offset (char.utf8Size + skip) (bytes (char :: text))
      = offsetsFrom name (offset + char.utf8Size) skip (bytes text) := by
  have hsize := String.length_utf8EncodeChar char
  have hskip : (String.utf8EncodeChar char).length ≤ char.utf8Size + skip :=
    hsize.trans_le (Nat.le_add_right _ _)
  rw [bytes_cons, offsetsFrom_skipped _ hskip, hsize, Nat.add_sub_cancel_left]

/-- Behind the first byte of a name the rest of it is skipped. -/
theorem offsetsFrom_char_found (offset : Nat) (char : Char) (word after : List Char) :
    offsetsFrom (bytes (char :: word)) offset 0 (bytes (char :: (word ++ after)))
      = offset :: offsetsFrom (bytes (char :: word)) (offset + char.utf8Size) (byteLength word)
          (bytes (word ++ after)) := by
  obtain ⟨first, behind, hchar⟩ : ∃ first behind, String.utf8EncodeChar char = first :: behind :=
    List.exists_cons_of_ne_nil (by simp)
  have hsize : behind.length + 1 = char.utf8Size := by
    rw [← String.length_utf8EncodeChar, hchar, List.length_cons]
  have hfound : (bytes (char :: word)).isPrefixOf (first :: (behind ++ bytes (word ++ after)))
      = true := by
    rw [List.isPrefixOf_iff_prefix, ← List.cons_append, ← hchar, ← bytes_cons, bytes_isPrefix]
    exact List.prefix_append (char :: word) after
  have hlength : (bytes (char :: word)).length - 1 = behind.length + byteLength word := by
    rw [length_bytes, byteLength_cons, ← hsize]
    omega
  rw [bytes_cons char (word ++ after), hchar, List.cons_append, offsetsFrom, if_pos hfound,
    hlength, offsetsFrom_skipped _ (Nat.le_add_right _ _), Nat.add_sub_cancel_left, Nat.add_assoc,
    Nat.add_comm 1, hsize]

/-- A name that does not begin at a character does not begin inside it either. -/
theorem offsetsFrom_char_absent (offset : Nat) {char : Char} {text : List Char}
    (hletters : letters ≠ []) (habsent : ¬letters <+: char :: text) :
    offsetsFrom (bytes letters) offset 0 (bytes (char :: text))
      = offsetsFrom (bytes letters) (offset + char.utf8Size) 0 (bytes text) := by
  rw [bytes_cons, offsetsFrom_absent offset, String.length_utf8EncodeChar]
  intro count hcount
  rw [String.length_utf8EncodeChar] at hcount
  rcases Nat.eq_zero_or_pos count with rfl | hpos
  · rwa [List.drop_zero, ← bytes_cons, bytes_isPrefix]
  · exact not_bytes_prefix_inside hpos hcount hletters (bytes text)

/-- **The bytes of a name are found where the name stands.** -/
theorem offsetsFrom_bytes (hletters : letters ≠ []) (before : List Char) (skip : Nat)
    (text : List Char) :
    offsetsFrom (bytes letters) (byteLength before) (byteLength (text.take skip)) (bytes text)
      = (occurrencesFrom letters before skip text).map Place.offset := by
  induction text generalizing before skip with
  | nil => rfl
  | cons char rest ih =>
      have hnext : byteLength before + char.utf8Size = byteLength (char :: before) := by
        rw [byteLength_cons, Nat.add_comm]
      cases skip with
      | succ skip =>
          rw [List.take_succ_cons, byteLength_cons, offsetsFrom_char_skipped, hnext, ih,
            occurrencesFrom]
      | zero =>
          rw [List.take_zero, byteLength_nil, occurrencesFrom]
          split
          · next hfound =>
            obtain ⟨after, hafter⟩ := List.isPrefixOf_iff_prefix.1 hfound
            obtain ⟨letter, word, rfl⟩ := List.exists_cons_of_ne_nil hletters
            rw [List.cons_append] at hafter
            obtain ⟨rfl, rfl⟩ := List.cons.inj hafter
            have hrest := ih (letter :: before) word.length
            rw [List.take_left] at hrest
            rw [offsetsFrom_char_found, hnext, hrest]
            rfl
          · next habsent =>
            have hrest := ih (char :: before) 0
            rw [List.take_zero, byteLength_nil] at hrest
            rw [List.isPrefixOf_iff_prefix] at habsent
            rw [offsetsFrom_char_absent _ hletters habsent, hnext, hrest]

end Offsets

variable {source name : String} {place : Place}

theorem nameOffsets_eq (source name : String) :
    nameOffsets source name = (occurrences name.toList source.toList).map Place.offset := by
  rw [nameOffsets, occurrences]
  by_cases hname : name.toList = []
  · obtain rfl : name = "" := String.toList_eq_nil_iff.1 hname
    rfl
  · have hfound : offsetsFrom (bytes name.toList) 0 0 (bytes source.toList)
        = (occurrencesFrom name.toList [] 0 source.toList).map Place.offset :=
      offsetsFrom_bytes hname [] 0 source.toList
    rw [if_neg (by simpa using hname), if_neg (by simpa using hname), hfound]

/-! ### Pieces around a place -/

/-- **A piece of whole characters can be cut out.** -/
theorem piece?_split (before middle after : List Char)
    (hsource : source.toList = before ++ (middle ++ after)) :
    piece? source (byteLength before) (byteLength before + byteLength middle)
      = some (String.ofList middle) := by
  have hpiece : IsPiece source (byteLength before) (byteLength before + byteLength middle) := by
    refine ⟨Nat.le_add_right _ _, ?_, ?_, ?_⟩
    · rw [← byteLength_toList, hsource, byteLength_append, byteLength_append, ← Nat.add_assoc]
      exact Nat.le_add_right _ _
    · exact isBoundary_iff.2 ⟨before, middle ++ after, hsource, rfl⟩
    · refine isBoundary_iff.2 ⟨before ++ middle, after, ?_, (byteLength_append _ _).symm⟩
      rw [List.append_assoc, hsource]
  rw [piece?, if_pos hpiece, ← slice_eq before middle after, ← hsource, String.ofList_toList]

theorem isPiece_of_piece? {first last : Nat} {text : String}
    (hpiece : piece? source first last = some text) : IsPiece source first last := by
  rw [piece?] at hpiece
  split at hpiece
  · assumption
  · cases hpiece

theorem piece?_before (hplace : place.In source) :
    piece? source 0 place.offset = some (String.ofList place.before.reverse) := by
  have hpiece := piece?_split [] place.before.reverse place.after hplace.symm
  rwa [byteLength_nil, Nat.zero_add, byteLength_reverse] at hpiece

theorem piece?_offset {text after : List Char} (hplace : place.In source)
    (hafter : place.after = text ++ after) :
    piece? source place.offset (place.offset + byteLength text) = some (String.ofList text) := by
  have hpiece := piece?_split place.before.reverse text after (by rw [← hafter, hplace])
  rwa [byteLength_reverse] at hpiece

theorem piece?_rest (hplace : place.In source) :
    piece? source place.offset source.utf8ByteSize = some (String.ofList place.after) := by
  rw [utf8ByteSize_offset hplace]
  exact piece?_offset hplace (List.append_nil _).symm

theorem piece?_items {inner after : List Char} (hplace : place.In source)
    (hafter : place.after = name.toList ++ '(' :: (inner ++ ')' :: after)) :
    piece? source (place.offset + name.utf8ByteSize + 1)
        (place.offset + byteLength (name.toList ++ '(' :: (inner ++ [')'])) - 1)
      = some (String.ofList inner) := by
  obtain ⟨hopen, hclose⟩ := items_offset place name inner
  rw [hopen, hclose]
  apply piece?_split _ inner (')' :: after)
  rw [← hplace, hafter]
  simp

/-- The last line begins behind the last line end. -/
theorem lastLine_eq {above here : List Char} (habove : ∀ char ∈ above.getLast?, char = '\n')
    (hhere : '\n' ∉ here) : lastLine (String.ofList (above ++ here)) = byteLength above := by
  have habsent : ¬∃ byte ∈ (bytes here).reverse, (byte == '\n'.toUInt8) = true := by
    rintro ⟨byte, hbyte, hline⟩
    obtain ⟨char, hchar, hmem⟩ := List.mem_flatMap.1 (List.mem_reverse.1 hbyte)
    rw [beq_iff_eq.1 hline] at hmem
    exact hhere (eq_of_mem_utf8EncodeChar (by decide) hmem ▸ hchar)
  have hfound : (bytes above).reverse.findIdx (· == '\n'.toUInt8) = 0 := by
    rcases List.eq_nil_or_concat' above with rfl | ⟨lines, last, rfl⟩
    · rfl
    · obtain rfl : last = '\n' := habove last (by simp)
      rw [bytes_append, List.reverse_append]
      rfl
  rw [lastLine, ← byteLength_toList, String.toList_ofList, bytes_append, List.reverse_append,
    List.findIdx_append, if_neg (mt List.findIdx_lt_length.1 habsent), hfound,
    List.length_reverse, length_bytes, byteLength_append, Nat.zero_add, Nat.add_sub_cancel]

/-- The last line of what stands before a place. -/
theorem piece?_lastLine (before : List Char) :
    piece? (String.ofList before.reverse) (lastLine (String.ofList before.reverse))
        (String.ofList before.reverse).utf8ByteSize
      = some (String.ofList (before.takeWhile (· != '\n')).reverse) := by
  have hlines : before.reverse = (before.dropWhile (· != '\n')).reverse
      ++ (before.takeWhile (· != '\n')).reverse := by
    rw [← List.reverse_append, List.takeWhile_append_dropWhile]
  have hbegins : lastLine (String.ofList before.reverse)
      = byteLength (before.dropWhile (· != '\n')).reverse := by
    rw [hlines]
    apply lastLine_eq
    · intro char hchar
      have hline := List.head?_dropWhile_not (· != '\n') before
      rw [List.getLast?_reverse] at hchar
      rw [Option.mem_def.1 hchar] at hline
      simpa using hline
    · intro hmem
      have hline := List.mem_takeWhile_imp (List.mem_reverse.1 hmem)
      simp at hline
  have hends : (String.ofList before.reverse).utf8ByteSize
      = byteLength (before.dropWhile (· != '\n')).reverse
        + byteLength (before.takeWhile (· != '\n')).reverse := by
    rw [← byteLength_append, ← hlines, ← byteLength_toList, String.toList_ofList]
  rw [hbegins, hends]
  apply piece?_split _ _ []
  rw [String.toList_ofList, List.append_nil, ← hlines]

theorem siteBetween?_eq {last : Nat} {text : String} (hplace : place.In source)
    (htext : piece? source place.offset last = some text) (terminated : Bool) :
    siteBetween? source place.offset last terminated
      = some ⟨text, place.line, place.column, terminated⟩ := by
  rw [siteBetween?, piece?_before hplace, htext]
  simp only [Option.bind_eq_bind, Option.bind_some, piece?_lastLine]
  simp [Place.line, Place.column]

/-! ### Calls are cut out where they stand -/

theorem isContinued?_offset (hplace : place.In source) :
    isContinued? source place.offset = some (place.before.head?.any continuesName) := by
  rw [← isContinuedAt_offset hplace, isContinuedAt, isContinued?]
  by_cases hstart : place.offset = 0
  · rw [if_pos hstart, hstart]
    rfl
  · have hsize := utf8ByteSize_offset hplace
    have hinside : place.offset - 1 < (bytes source.toList).length := by
      rw [length_bytes, byteLength_toList]
      omega
    rw [if_neg hstart, List.getElem?_eq_getElem hinside, Option.map_some, Option.any_some,
      decide_eq_true (Nat.pos_of_ne_zero hstart), Bool.true_and]

theorem startsCall?_offset {list : List Char} (hplace : place.In source)
    (hafter : place.after = name.toList ++ list) :
    startsCall? source name place.offset = some (isCallStart name.toList place) := by
  have hname := piece?_offset hplace hafter
  rw [byteLength_toList, String.ofList_toList] at hname
  have hopening : (bytes source.toList)[place.offset + name.utf8ByteSize]? = (bytes list).head? := by
    have hoffset : place.offset + name.utf8ByteSize
        = byteLength (place.before.reverse ++ name.toList) := by
      rw [byteLength_append, byteLength_reverse, byteLength_toList, Place.offset]
    rw [← List.head?_drop, hoffset, ← hplace, hafter, ← List.append_assoc, drop_bytes]
  have hparen : (((bytes list).head? == some '('.toUInt8) : Bool) = (list.head? == some '(') := by
    rw [Bool.eq_iff_iff, beq_iff_eq, beq_iff_eq]
    exact head?_bytes (by decide)
  rw [startsCall?, isContinued?_offset hplace, hname, hopening]
  simp only [Option.bind_eq_bind, Option.bind_some, hparen, beq_self_eq_true, Bool.and_true]
  rw [isCallStart, hafter, List.drop_left]
  rfl

theorem callBetween?_offset {rest : List Char} (hplace : place.In source)
    (hafter : place.after = name.toList ++ '(' :: rest) :
    callBetween? source name place.offset = some (callSiteAt name.toList place) := by
  rw [callBetween?, closingOffset_eq_closingParen, closingParen_offset hplace hafter]
  cases hlist : listLength ('(' :: rest) with
  | none =>
      rw [callSiteAt_open hafter hlist]
      simp [siteBetween?_eq hplace (piece?_rest hplace)]
  | some length =>
      obtain ⟨inner, after, rfl, rfl⟩ := listLength_split hlist
      have hpiece : place.after = (name.toList ++ '(' :: (inner ++ [')'])) ++ after := by
        simpa using hafter
      have hsite := siteBetween?_eq hplace (piece?_offset hplace hpiece) true
      rw [callSiteAt_closed hafter hlist, Option.map_some, take_list]
      simp only [piece?_items hplace hafter, hsite, Option.bind_eq_bind, Option.bind_some,
        String.toList_ofList]
      cases inner.all isBlank <;> rfl

theorem exists_list_of_isCallStart {list : List Char} (hafter : place.after = name.toList ++ list)
    (hstart : isCallStart name.toList place = true) :
    ∃ rest, place.after = name.toList ++ '(' :: rest := by
  apply exists_list_of_isCallPlace
  rw [isCallPlace, hstart, Bool.and_true, List.isPrefixOf_iff_prefix, hafter]
  exact List.prefix_append _ _

theorem callFrom?_offset {list : List Char} (hplace : place.In source)
    (hafter : place.after = name.toList ++ list) :
    callFrom? source name place.offset
      = some (if isCallStart name.toList place then callSiteAt name.toList place else none) := by
  rw [callFrom?, startsCall?_offset hplace hafter]
  cases hstart : isCallStart name.toList place with
  | false => rfl
  | true =>
      obtain ⟨rest, hrest⟩ := exists_list_of_isCallStart hafter hstart
      exact callBetween?_offset hplace hrest

theorem filterMapM_some {α β γ : Type} {items : List α} (key : α → γ)
    {found? : γ → Option (Option β)} {found : α → Option β}
    (hfound : ∀ item ∈ items, found? (key item) = some (found item)) :
    (items.map key).filterMapM found? = some (items.filterMap found) := by
  induction items with
  | nil => rfl
  | cons item rest ih =>
      have hrest := ih fun other hother => hfound other (List.mem_cons_of_mem _ hother)
      rw [List.map_cons, List.filterMapM_cons, hfound item List.mem_cons_self, hrest,
        List.filterMap_cons]
      cases found item <;> rfl

theorem exists_list_of_mem_occurrences
    (hplace : place ∈ occurrences name.toList source.toList) :
    place.In source ∧ ∃ list, place.after = name.toList ++ list := by
  obtain ⟨list, hlist⟩ := (isPrefix_of_mem_occurrences hplace).2
  have hmem := (occurrences_sublist name.toList source.toList).subset hplace
  exact ⟨in_of_mem_placesFrom rfl place hmem, list, hlist.symm⟩

/-- **No cut fails**, and the calls that are cut out are the calls of the text. -/
theorem callSites?_eq (source name : String) :
    callSites? source name = some (callSites source name) := by
  have hfound : ∀ place ∈ occurrences name.toList source.toList,
      callFrom? source name place.offset
        = some (if isCallStart name.toList place then callSiteAt name.toList place else none) := by
    intro place hplace
    obtain ⟨hin, list, hafter⟩ := exists_list_of_mem_occurrences hplace
    exact callFrom?_offset hin hafter
  rw [callSites?, nameOffsets_eq, filterMapM_some Place.offset hfound, callSites,
    List.filterMap_filter]

/-- The pieces that are cut out for the call at an offset: what stands before it, its items, and its
text. -/
structure CutsOut (source name : String) (start : Nat) : Prop where
  before : IsPiece source 0 start
  closed : ∀ closing, closingOffset source (start + name.utf8ByteSize) = some closing →
    IsPiece source (start + name.utf8ByteSize + 1) (closing - 1) ∧ IsPiece source start closing
  unclosed : closingOffset source (start + name.utf8ByteSize) = none →
    IsPiece source start source.utf8ByteSize

theorem cutsOut_of_startsCall? {start : Nat} (hfound : start ∈ nameOffsets source name)
    (hstarts : startsCall? source name start = some true) : CutsOut source name start := by
  rw [nameOffsets_eq] at hfound
  obtain ⟨place, hmem, rfl⟩ := List.mem_map.1 hfound
  obtain ⟨hplace, list, hafter⟩ := exists_list_of_mem_occurrences hmem
  rw [startsCall?_offset hplace hafter, Option.some.injEq] at hstarts
  obtain ⟨rest, hrest⟩ := exists_list_of_isCallStart hafter hstarts
  refine ⟨isPiece_of_piece? (piece?_before hplace), ?_, ?_⟩
  · intro closing hclosing
    rw [closingOffset_eq_closingParen, closingParen_offset hplace hrest] at hclosing
    obtain ⟨length, hlist, rfl⟩ := Option.map_eq_some_iff.1 hclosing
    obtain ⟨inner, after, rfl, rfl⟩ := listLength_split hlist
    have hpiece : place.after = (name.toList ++ '(' :: (inner ++ [')'])) ++ after := by
      simpa using hrest
    rw [take_list]
    exact ⟨isPiece_of_piece? (piece?_items hplace hrest),
      isPiece_of_piece? (piece?_offset hplace hpiece)⟩
  · intro _
    exact isPiece_of_piece? (piece?_rest hplace)

/-- **Code is whole characters and calls are cut out between characters.** Read from a boundary on,
the offsets of the code are those of whole characters, and each run of them begins and ends at a
boundary. For whatever name, every piece that is cut out for a call is in order, within the text and
between characters, so no cut fails. -/
theorem extraction_in_bounds (source : String) :
    (∀ start, IsBoundary source start →
        IsWhole source ((readCode source start).map Prod.fst)
          ∧ ∀ first last, IsRun ((readCode source start).map Prod.fst) first last →
              IsBoundary source first ∧ IsBoundary source last)
      ∧ ∀ name, callSites? source name = some (callSites source name)
          ∧ ∀ start ∈ nameOffsets source name, startsCall? source name start = some true →
              CutsOut source name start := by
  refine ⟨fun start hstart => ?_, fun name => ⟨callSites?_eq source name, fun start hfound =>
    cutsOut_of_startsCall? hfound⟩⟩
  rw [readCode_eq_codeBytes]
  have hwhole := isWhole_codeBytes hstart
  exact ⟨hwhole, fun first last => hwhole.isBoundary⟩

/-- A backslash leads inside a character, in quotes and in templates. The list of the second call is
never closed, and its last backslash stands in front of the last character. -/
theorem extraction_in_bounds_behind_backslash :
    let source := "é tc('\\é)' + \x60\\é$\x7bb\x7d\x60) tc(\x60\\é"
    IsBoundary source 5
      ∧ (readCode source 5).map Prod.fst = [5, 12, 13, 14, 21, 24, 25, 26, 27, 28]
      ∧ IsRun ((readCode source 5).map Prod.fst) 12 15
      ∧ IsBoundary source 12 ∧ IsBoundary source 15
      ∧ nameOffsets source "tc" = [3, 26]
      ∧ startsCall? source "tc" 3 = some true ∧ startsCall? source "tc" 26 = some true
      ∧ IsPiece source 6 24 ∧ IsPiece source 3 25 ∧ IsPiece source 26 33
      ∧ callSites? source "tc" = some
          [⟨"tc('\\é)' + \x60\\é$\x7bb\x7d\x60)", 1, 3, true⟩, ⟨"tc(\x60\\é", 1, 24, false⟩] := by
  intro source
  have hcode : (readCode source 5).map Prod.fst = [5, 12, 13, 14, 21, 24, 25, 26, 27, 28] := by
    rw [readCode_eq_codeBytes]
    decide +kernel
  have hrun : IsRun ((readCode source 5).map Prod.fst) 12 15 := by
    rw [hcode]
    refine ⟨by decide, fun offset hlower hupper => ?_, by decide, by decide⟩
    obtain rfl | rfl | rfl : offset = 12 ∨ offset = 13 ∨ offset = 14 := by omega
    all_goals decide
  have hstart : IsBoundary source 5 := by decide +kernel
  have hfound : nameOffsets source "tc" = [3, 26] := by decide +kernel
  have hfirst : startsCall? source "tc" 3 = some true := by decide +kernel
  have hsecond : startsCall? source "tc" 26 = some true := by decide +kernel
  obtain ⟨hwhole, hcalls⟩ := extraction_in_bounds source
  obtain ⟨hbegins, hends⟩ := (hwhole 5 hstart).2 12 15 hrun
  obtain ⟨hsites, hcuts⟩ := hcalls "tc"
  have hclosing : closingOffset source 5 = some 25 := by
    rw [closingOffset_eq_closingParen]
    decide +kernel
  have hopen : closingOffset source 28 = none := by
    rw [closingOffset_eq_closingParen]
    decide +kernel
  obtain ⟨hitems, htext⟩ := (hcuts 3 (by simp [hfound]) hfirst).closed 25 hclosing
  have hrest := (hcuts 26 (by simp [hfound]) hsecond).unclosed hopen
  refine ⟨hstart, hcode, hrun, hbegins, hends, hfound, hfirst, hsecond, hitems, htext, hrest, ?_⟩
  rw [hsites]
  decide +kernel

end UtilityClasses.Source
