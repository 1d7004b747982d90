import UtilityClasses.Proofs.CallSites

/-!
# Texts joined at a line end

A text may be put below another one. The calls that start in it stay the same, only further down:
nothing that stands above is remembered when a list of arguments is read. The calls of the text above
stay the same too, as long as all their lists are closed there.
-/

namespace UtilityClasses.Source

open UtilityClasses.Text

/-! ### Calls with the offsets at which they start -/

structure LocatedCall where
  offset : Nat
  site : CallSite
  deriving DecidableEq, Repr

def locatedCalls (source name : String) : List LocatedCall :=
  ((occurrences name.toList source.toList).filter (isCallStart name.toList)).filterMap fun place =>
    (callSiteAt name.toList place).map fun site => ⟨place.offset, site⟩

theorem map_site_locatedCalls (source name : String) :
    (locatedCalls source name).map LocatedCall.site = callSites source name := by
  rw [locatedCalls, callSites, List.map_filterMap]
  congr 1
  funext place
  rw [Option.map_map]
  exact Option.map_id'

/-! ### A list is read no further than its closing parenthesis -/

/-- Whether a parenthesis is code does not depend on what follows it. -/
theorem advance_parenthesis {char : Char} (hparen : char = '(' ∨ char = ')') (state : ScanState)
    (first second : Option Char) : state.advance char first = state.advance char second := by
  obtain ⟨frames, region, swallow⟩ := state
  cases swallow with
  | true => rfl
  | false =>
      cases frames with
      | nil => rfl
      | cons frame outer =>
          rcases hparen with rfl | rfl
          · cases frame with
            | template => rfl
            | code braces => cases region <;> rfl
          · cases frame with
            | template => rfl
            | code braces => cases region <;> rfl

theorem filter_map_succ (found : Option Nat) (count : Nat) :
    (found.map (· + 1)).filter (· ≤ count + 1) = (found.filter (· ≤ count)).map (· + 1) := by
  rw [Option.filter_map]
  simp only [Function.comp_def, Nat.add_le_add_iff_right]

/-- **What closes a list depends on the text up to there.** Truncating a text keeps the closing
parenthesis that is left in it, and brings out no other. -/
theorem closeAfter_take (state : ScanState) (depth count : Nat) (text : List Char) :
    closeAfter state depth (text.take count)
      = (closeAfter state depth text).filter (· ≤ count) := by
  induction text generalizing state depth count with
  | nil => simp [closeAfter]
  | cons char rest ih =>
      cases count with
      | zero =>
          cases hclose : closeAfter state depth (char :: rest) with
          | none => rfl
          | some length =>
              obtain ⟨inner, after, -, rfl⟩ := closeAfter_split hclose
              simp [closeAfter, Option.filter]
      | succ count =>
          -- The last character that is left sees no following one, but nothing is read behind it.
          have hrest (depth : Nat) :
              closeAfter (state.advance char (rest.take count).head?).1 depth (rest.take count)
                = (closeAfter (state.advance char rest.head?).1 depth rest).filter (· ≤ count) := by
            rw [← ih]
            cases count with
            | zero => rfl
            | succ count => cases rest <;> rfl
          rw [List.take_succ_cons]
          by_cases hparen : char = '(' ∨ char = ')'
          · have hstep := advance_parenthesis hparen state (rest.take count).head? rest.head?
            simp only [hstep] at hrest
            simp only [closeAfter, hstep, hrest]
            split
            · exact (filter_map_succ _ _).symm
            · split
              · split
                · simp [Option.filter]
                · exact (filter_map_succ _ _).symm
              · exact (filter_map_succ _ _).symm
          · rw [not_or] at hparen
            simp only [closeAfter, beq_eq_false_iff_ne.2 hparen.1, beq_eq_false_iff_ne.2 hparen.2,
              Bool.and_false, Bool.false_eq_true, if_false, hrest]
            exact (filter_map_succ _ _).symm

theorem closeAfter_append {state : ScanState} {depth length : Nat} {text : List Char}
    (hclose : closeAfter state depth text = some length) (more : List Char) :
    closeAfter state depth (text ++ more) = some length := by
  have htake := closeAfter_take state depth text.length (text ++ more)
  rw [List.take_left, hclose, eq_comm, Option.filter_eq_some_iff] at htake
  exact htake.1

theorem listLength_append {list : List Char} {length : Nat} (hlist : listLength list = some length)
    (more : List Char) : listLength (list ++ more) = some length :=
  closeAfter_append hlist more

/-! ### The places of a text in a longer one -/

def Place.extend (more : List Char) (place : Place) : Place := ⟨place.before, place.after ++ more⟩

/-- The place with more text in front, given backwards as `before` is. -/
def Place.below (above : List Char) (place : Place) : Place := ⟨place.before ++ above, place.after⟩

theorem placesFrom_append (before left right : List Char) :
    placesFrom before (left ++ right)
      = (placesFrom before left).map (Place.extend right)
        ++ placesFrom (left.reverse ++ before) right := by
  induction left generalizing before with
  | nil => rfl
  | cons char rest ih =>
      rw [List.cons_append, placesFrom, placesFrom, ih, List.map_cons, List.cons_append,
        List.reverse_cons, List.append_assoc]
      rfl

theorem placesFrom_below (before above text : List Char) :
    placesFrom (before ++ above) text = (placesFrom before text).map (Place.below above) := by
  induction text generalizing before with
  | nil => rfl
  | cons char rest ih =>
      rw [placesFrom, placesFrom, List.map_cons, ← ih (char :: before)]
      rfl

theorem offset_lt_of_mem_placesFrom {before text : List Char} {place : Place}
    (hplace : place ∈ placesFrom before text) :
    byteLength before ≤ place.offset ∧ place.offset < byteLength before + byteLength text := by
  induction text generalizing before with
  | nil => simp [placesFrom] at hplace
  | cons char rest ih =>
      have hsize : 0 < char.utf8Size := char.utf8Size_pos
      rw [byteLength_cons]
      rcases List.mem_cons.1 hplace with rfl | hplace
      · simp only [Place.offset]
        omega
      · have hrest := ih hplace
        rw [byteLength_cons] at hrest
        omega

/-! ### What is reported at a place -/

/-- The call that is reported at a place of a text, if there is one. -/
def reportAt (name : List Char) (place : Place) : Option CallSite :=
  if isCallPlace name place then callSiteAt name place else none

/-- A call that is reported some lines further down. -/
def CallSite.lowered (lines : Nat) (site : CallSite) : CallSite :=
  { site with line := site.line + lines }

theorem callSites_eq_reports (source : String) {name : String} (hname : isIdentifier name = true) :
    callSites source name = (placesFrom [] source.toList).filterMap (reportAt name.toList) := by
  rw [callSites_eq_places source hname, List.filterMap_filter]
  rfl

theorem locatedCalls_eq_reports (source : String) {name : String}
    (hname : isIdentifier name = true) :
    locatedCalls source name
      = (placesFrom [] source.toList).filterMap fun place =>
          (reportAt name.toList place).map fun site => ⟨place.offset, site⟩ := by
  rw [locatedCalls, filter_occurrences source hname, List.filterMap_filter]
  congr 1
  funext place
  rw [reportAt]
  split <;> rfl

theorem takeWhile_line (left right : List Char) :
    (left ++ '\n' :: right).takeWhile (· != '\n') = left.takeWhile (· != '\n') := by
  induction left with
  | nil => rfl
  | cons char rest ih =>
      rw [List.cons_append, List.takeWhile_cons, List.takeWhile_cons, ih]

/-- **Below a line end every place reports what it reports in its own text**, further down. -/
theorem reportAt_below (name : List Char) (place : Place) (above : List Char) :
    reportAt name (place.below ('\n' :: above))
      = (reportAt name place).map (CallSite.lowered (above.count '\n' + 1)) := by
  have hfree : (place.before ++ '\n' :: above).head?.any continuesName
      = place.before.head?.any continuesName := by
    cases place.before with
    | nil => exact (by decide : continuesName '\n' = false)
    | cons char rest => rfl
  have hcall : isCallPlace name (place.below ('\n' :: above)) = isCallPlace name place := by
    rw [isCallPlace, isCallStart, Place.below, hfree]
    rfl
  have hline : (place.below ('\n' :: above)).line = place.line + (above.count '\n' + 1) := by
    simp only [Place.line, Place.below, List.count_append, List.count_cons_self]
    omega
  have hcolumn : (place.below ('\n' :: above)).column = place.column := by
    simp only [Place.column, Place.below, takeWhile_line]
  have hafter : (place.below ('\n' :: above)).after = place.after := rfl
  rw [reportAt, reportAt, hcall, callSiteAt, callSiteAt, hline, hcolumn, hafter]
  cases isCallPlace name place with
  | false => rfl
  | true =>
      cases listLength (place.after.drop name.length) with
      | none => rfl
      | some length =>
          dsimp only
          rw [if_pos rfl, if_pos rfl]
          by_cases hblank : isBlankList ((place.after.drop name.length).take length) = true
          · rw [if_pos hblank, if_pos hblank, Option.map_none]
          · rw [if_neg hblank, if_neg hblank, Option.map_some]
            rfl

/-- A text without line ends that begins what is joined at one begins the part above it. -/
theorem prefix_above {word left right : List Char} (hword : '\n' ∉ word) :
    word <+: left ++ '\n' :: right ↔ word <+: left := by
  induction left generalizing word with
  | nil =>
      cases word with
      | nil => simp
      | cons char rest =>
          rw [List.nil_append, List.cons_prefix_cons]
          simp only [List.mem_cons, not_or] at hword
          simp [Ne.symm hword.1]
  | cons first left ih =>
      cases word with
      | nil => simp
      | cons char rest =>
          simp only [List.mem_cons, not_or] at hword
          rw [List.cons_append, List.cons_prefix_cons, List.cons_prefix_cons, ih hword.2]

/-- **Above a line end every place reports what it reports in its own text**, if its list is closed
there. -/
theorem reportAt_extend {name : List Char} (hname : '\n' ∉ name) {place : Place}
    (hclosed : ∀ site, reportAt name place = some site → site.terminated = true)
    (below : List Char) :
    reportAt name (place.extend ('\n' :: below)) = reportAt name place := by
  have hword : '\n' ∉ name ++ ['('] := by simp [hname]
  have hcall : isCallPlace name (place.extend ('\n' :: below)) = isCallPlace name place := by
    rw [Bool.eq_iff_iff, isCallPlace_iff, isCallPlace_iff]
    exact and_congr_left' (prefix_above hword)
  rw [reportAt] at hclosed
  rw [reportAt, reportAt, hcall]
  cases hstart : isCallPlace name place with
  | false => rfl
  | true =>
      rw [hstart, if_pos rfl] at hclosed
      rw [if_pos rfl, if_pos rfl]
      obtain ⟨rest, hafter⟩ := exists_list_of_isCallPlace hstart
      have hlonger : (place.extend ('\n' :: below)).after
          = name ++ '(' :: (rest ++ '\n' :: below) := by
        rw [Place.extend, hafter, List.append_assoc, List.cons_append]
      cases hlist : listLength ('(' :: rest) with
      | none => exact absurd (hclosed _ (callSiteAt_open hafter hlist)) Bool.false_ne_true
      | some length =>
          obtain ⟨inner, after, rfl, rfl⟩ := listLength_split hlist
          have hlist' := listLength_append hlist ('\n' :: below)
          rw [List.append_assoc, List.cons_append] at hlonger
          rw [List.cons_append, List.append_assoc, List.cons_append] at hlist'
          rw [callSiteAt_closed hlonger hlist', callSiteAt_closed hafter hlist]
          rfl

/-! ### Joined texts -/

variable {above below name : String}

theorem lineEnd_not_mem_name (hname : isIdentifier name = true) : '\n' ∉ name.toList := by
  intro hmem
  have hcontinues := (continuesName_of_isIdentifier hname).2 '\n' hmem
  exact absurd hcontinues (by decide)

/-- The calls of joined texts that start in the upper one. -/
def upperCalls (above below name : String) : List LocatedCall :=
  (placesFrom [] above.toList).filterMap fun place =>
    (reportAt name.toList (place.extend ('\n' :: below.toList))).map fun site =>
      ⟨place.offset, site⟩

/-- The calls of joined texts that start in the lower one. -/
def lowerCalls (above below name : String) : List LocatedCall :=
  (placesFrom [] below.toList).filterMap fun place =>
    (reportAt name.toList (place.below ('\n' :: above.toList.reverse))).map fun site =>
      ⟨place.offset + (above.utf8ByteSize + 1), site⟩

theorem locatedCalls_joined (hname : isIdentifier name = true) :
    locatedCalls (above ++ "\n" ++ below) name
      = upperCalls above below name ++ lowerCalls above below name := by
  have htext : (above ++ "\n" ++ below).toList = above.toList ++ '\n' :: below.toList := by simp
  -- No name stands at the line end itself.
  have hseam : reportAt name.toList ⟨above.toList.reverse, '\n' :: below.toList⟩ = none := by
    have hcall : ¬isCallPlace name.toList ⟨above.toList.reverse, [] ++ '\n' :: below.toList⟩
        = true := by
      rw [isCallPlace_iff, prefix_above (by simp [lineEnd_not_mem_name hname])]
      simp
    rw [reportAt]
    exact if_neg hcall
  have hbelow : placesFrom ('\n' :: above.toList.reverse) below.toList
      = (placesFrom [] below.toList).map (Place.below ('\n' :: above.toList.reverse)) :=
    placesFrom_below [] _ _
  have hoffset (place : Place) : (place.below ('\n' :: above.toList.reverse)).offset
      = place.offset + (above.utf8ByteSize + 1) := by
    have hsize : '\n'.utf8Size = 1 := rfl
    simp only [Place.offset, Place.below, byteLength_append, byteLength_cons, byteLength_reverse,
      byteLength_toList, hsize]
    omega
  rw [locatedCalls_eq_reports _ hname, htext, placesFrom_append, List.append_nil, placesFrom,
    hbelow, List.filterMap_append, List.filterMap_cons, hseam, List.filterMap_map,
    List.filterMap_map]
  simp only [Option.map_none, Function.comp_def, hoffset]
  rfl

theorem offset_of_mem_upperCalls {call : LocatedCall} (hcall : call ∈ upperCalls above below name) :
    call.offset < above.utf8ByteSize := by
  obtain ⟨place, hplace, hreport⟩ := List.mem_filterMap.1 hcall
  obtain ⟨site, -, rfl⟩ := Option.map_eq_some_iff.1 hreport
  have hoffset := (offset_lt_of_mem_placesFrom hplace).2
  rwa [byteLength_nil, Nat.zero_add, byteLength_toList] at hoffset

theorem offset_of_mem_lowerCalls {call : LocatedCall} (hcall : call ∈ lowerCalls above below name) :
    above.utf8ByteSize < call.offset := by
  obtain ⟨place, -, hreport⟩ := List.mem_filterMap.1 hcall
  obtain ⟨site, -, rfl⟩ := Option.map_eq_some_iff.1 hreport
  dsimp only
  omega

theorem filter_upper (hname : isIdentifier name = true) :
    (locatedCalls (above ++ "\n" ++ below) name).filter (fun call =>
      call.offset < above.utf8ByteSize) = upperCalls above below name := by
  have hlower : (lowerCalls above below name).filter (fun call => call.offset < above.utf8ByteSize)
      = [] :=
    List.filter_eq_nil_iff.2 fun call hcall => by
      simpa using Nat.le_of_lt (offset_of_mem_lowerCalls hcall)
  rw [locatedCalls_joined hname, List.filter_append, hlower, List.append_nil, List.filter_eq_self]
  exact fun call hcall => by simpa using offset_of_mem_upperCalls hcall

theorem filter_lower (hname : isIdentifier name = true) :
    (locatedCalls (above ++ "\n" ++ below) name).filter (fun call =>
      above.utf8ByteSize < call.offset) = lowerCalls above below name := by
  have hupper : (upperCalls above below name).filter (fun call => above.utf8ByteSize < call.offset)
      = [] :=
    List.filter_eq_nil_iff.2 fun call hcall => by
      simpa using Nat.le_of_lt (offset_of_mem_upperCalls hcall)
  rw [locatedCalls_joined hname, List.filter_append, hupper, List.nil_append, List.filter_eq_self]
  exact fun call hcall => by simpa using offset_of_mem_lowerCalls hcall

theorem map_site_upperCalls (hname : isIdentifier name = true)
    (hclosed : ∀ site ∈ callSites above name, site.terminated = true) (below : String) :
    (upperCalls above below name).map LocatedCall.site = callSites above name := by
  rw [callSites_eq_reports above hname] at hclosed ⊢
  rw [upperCalls, List.map_filterMap]
  refine List.filterMap_congr fun place hplace => ?_
  have hreport := fun site hsite => hclosed site (List.mem_filterMap.2 ⟨place, hplace, hsite⟩)
  rw [reportAt_extend (lineEnd_not_mem_name hname) hreport, Option.map_map]
  exact Option.map_id'

theorem map_site_lowerCalls (hname : isIdentifier name = true) (above below : String) :
    (lowerCalls above below name).map LocatedCall.site
      = (callSites below name).map (CallSite.lowered (above.toList.count '\n' + 1)) := by
  rw [callSites_eq_reports below hname, lowerCalls, List.map_filterMap, List.map_filterMap]
  refine List.filterMap_congr fun place _ => ?_
  rw [reportAt_below, List.count_reverse, Option.map_map, Option.map_map]
  rfl

/-- **Texts joined at a line end keep their calls.** Those of the lower text are found as in that
text alone, further down by the lines above; those of the upper text are found unchanged, if all of
them are closed in it. -/
theorem callSites_joined (above below : String) {name : String}
    (hname : isIdentifier name = true) :
    (locatedCalls (above ++ "\n" ++ below) name).map LocatedCall.site
        = callSites (above ++ "\n" ++ below) name
    ∧ ((locatedCalls (above ++ "\n" ++ below) name).filter fun call =>
        above.utf8ByteSize < call.offset).map LocatedCall.site
      = (callSites below name).map (CallSite.lowered (above.toList.count '\n' + 1))
    ∧ ((∀ site ∈ callSites above name, site.terminated = true) →
      ((locatedCalls (above ++ "\n" ++ below) name).filter fun call =>
        call.offset < above.utf8ByteSize).map LocatedCall.site = callSites above name) := by
  refine ⟨map_site_locatedCalls _ _, ?_, ?_⟩
  · rw [filter_lower hname, map_site_lowerCalls hname]
  · intro hclosed
    rw [filter_upper hname, map_site_upperCalls hname hclosed]

/-- Above the line end one call opens in the list of another and an apostrophe is left open; the last
call below it is never closed. -/
theorem callSites_joined_nested :
    let above := "aa(é, aa(1)) aa( )\n it's"
    let below := "aaa(2) aa(3)\n aa(4"
    isIdentifier "aa" = true
      ∧ (∀ site ∈ callSites above "aa", site.terminated = true)
      ∧ ((locatedCalls (above ++ "\n" ++ below) "aa").filter
          fun call => above.utf8ByteSize < call.offset).map LocatedCall.site
        = (callSites below "aa").map (CallSite.lowered 2)
      ∧ ((locatedCalls (above ++ "\n" ++ below) "aa").filter
          fun call => call.offset < above.utf8ByteSize).map LocatedCall.site
        = callSites above "aa"
      ∧ callSites above "aa" = [⟨"aa(é, aa(1))", 1, 1, true⟩, ⟨"aa(1)", 1, 7, true⟩]
      ∧ callSites below "aa" = [⟨"aa(3)", 1, 8, true⟩, ⟨"aa(4", 2, 2, false⟩] := by
  intro above below
  have hname : isIdentifier "aa" = true := by decide
  have habove : callSites above "aa"
      = [⟨"aa(é, aa(1))", 1, 1, true⟩, ⟨"aa(1)", 1, 7, true⟩] := by decide +kernel
  have hbelow : callSites below "aa"
      = [⟨"aa(3)", 1, 8, true⟩, ⟨"aa(4", 2, 2, false⟩] := by decide +kernel
  have hclosed : ∀ site ∈ callSites above "aa", site.terminated = true := by
    rw [habove]
    decide
  have hlines : above.toList.count '\n' = 1 := by decide
  have hjoined := callSites_joined above below hname
  rw [hlines] at hjoined
  exact ⟨hname, hclosed, hjoined.2.1, hjoined.2.2 hclosed, habove, hbelow⟩

end UtilityClasses.Source
