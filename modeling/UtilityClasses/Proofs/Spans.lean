import UtilityClasses.Proofs.Compositional
import UtilityClasses.Proofs.Positions

/-!
# The text of a closed call stands by itself

A call that is closed is found again in its own text, as the first one and as a whole. Its text ends
where its list can first be closed: cut off anywhere, the list stays open.
-/

namespace UtilityClasses.Source

open UtilityClasses.Text

/-- A text that is a name and the whole of the list behind it, which is not blank. -/
structure IsClosedCall (name : List Char) (inner text : List Char) : Prop where
  text_eq : text = name ++ '(' :: (inner ++ [')'])
  closes : listLength ('(' :: (inner ++ [')'])) = some (inner.length + 2)
  filled : inner.all isBlank = false

variable {source name text : String} {inner list : List Char} {site : CallSite}

theorem listLength_take (list : List Char) (count : Nat) :
    listLength (list.take count) = (listLength list).filter (· ≤ count) :=
  closeAfter_take .start 0 count list

theorem isPrefix_of_mem_occurrencesFrom {letters before after : List Char} {skip : Nat}
    {place : Place} (hplace : place ∈ occurrencesFrom letters before skip after) :
    letters <+: place.after := by
  induction after generalizing before skip with
  | nil => simp [occurrencesFrom] at hplace
  | cons char rest ih =>
      cases skip with
      | succ skip => exact ih hplace
      | zero =>
          rw [occurrencesFrom] at hplace
          split at hplace
          · next hprefix =>
            rcases List.mem_cons.1 hplace with rfl | hplace
            · exact List.isPrefixOf_iff_prefix.1 hprefix
            · exact ih hplace
          · exact ih hplace

/-! ### The text of a call -/

/-- A list that is closed in a text is closed when it stands alone. -/
theorem listLength_alone {after : List Char}
    (hlist : listLength ('(' :: (inner ++ ')' :: after)) = some (inner.length + 2)) :
    listLength ('(' :: (inner ++ [')'])) = some (inner.length + 2) := by
  rw [← take_list inner after, listLength_take, hlist]
  simp [Option.filter]

theorem isPrefix_of_mem_occurrences {letters text : List Char} {place : Place}
    (hplace : place ∈ occurrences letters text) : letters ≠ [] ∧ letters <+: place.after := by
  rw [occurrences] at hplace
  split at hplace
  · exact absurd hplace List.not_mem_nil
  · next hletters =>
    exact ⟨by simpa using hletters, isPrefix_of_mem_occurrencesFrom hplace⟩

theorem isCallPlace_of_mem_occurrences {letters text : List Char} {place : Place}
    (hplace : place ∈ (occurrences letters text).filter (isCallStart letters)) :
    letters ≠ [] ∧ isCallPlace letters place = true := by
  obtain ⟨hoccurs, hstart⟩ := List.mem_filter.1 hplace
  obtain ⟨hletters, hbegins⟩ := isPrefix_of_mem_occurrences hoccurs
  refine ⟨hletters, ?_⟩
  rwa [isCallPlace, hstart, Bool.and_true, List.isPrefixOf_iff_prefix]

/-- A call is reported at a place of the text where its name stands. -/
theorem exists_place_of_mem_locatedCalls {source name : String} {call : LocatedCall}
    (hcall : call ∈ locatedCalls source name) :
    ∃ place : Place, place.In source ∧ isCallPlace name.toList place = true
      ∧ callSiteAt name.toList place = some call.site ∧ place.offset = call.offset := by
  obtain ⟨place, hstart, hreport⟩ := List.mem_filterMap.1 hcall
  obtain ⟨site, hsite, rfl⟩ := Option.map_eq_some_iff.1 hreport
  have hmem := (occurrences_sublist name.toList source.toList).subset
    (List.mem_of_mem_filter hstart)
  exact ⟨place, in_of_mem_placesFrom rfl place hmem, (isCallPlace_of_mem_occurrences hstart).2,
    hsite, rfl⟩

/-- Where a call is reported as closed stand the name and a list that is not blank. -/
theorem exists_list_of_callSiteAt {letters : List Char} {place : Place}
    (hcall : isCallPlace letters place = true) (hreport : callSiteAt letters place = some site)
    (hclosed : site.terminated = true) :
    ∃ inner after, place.after = letters ++ '(' :: (inner ++ ')' :: after)
      ∧ listLength ('(' :: (inner ++ ')' :: after)) = some (inner.length + 2)
      ∧ site.text.toList = letters ++ '(' :: (inner ++ [')'])
      ∧ inner.all isBlank = false := by
  obtain ⟨rest, hafter⟩ := exists_list_of_isCallPlace hcall
  cases hlist : listLength ('(' :: rest) with
  | none =>
      rw [callSiteAt_open hafter hlist, Option.some.injEq] at hreport
      rw [← hreport] at hclosed
      exact absurd hclosed Bool.false_ne_true
  | some length =>
      obtain ⟨inner, after, rfl, rfl⟩ := listLength_split hlist
      rw [callSiteAt_closed hafter hlist] at hreport
      split at hreport
      · exact absurd hreport nofun
      · next hfilled =>
        rw [Option.some.injEq] at hreport
        refine ⟨inner, after, hafter, hlist, ?_, by simpa using hfilled⟩
        rw [← hreport, String.toList_ofList]

/-- What is reported as closed is a name and the whole of its list. -/
theorem exists_isClosedCall (hsite : site ∈ callSites source name)
    (hclosed : site.terminated = true) :
    name.toList ≠ [] ∧ ∃ inner, IsClosedCall name.toList inner site.text.toList := by
  obtain ⟨place, hplace, hreport⟩ := List.mem_filterMap.1 hsite
  obtain ⟨hname, hcall⟩ := isCallPlace_of_mem_occurrences hplace
  obtain ⟨inner, after, -, hlist, htext, hfilled⟩ :=
    exists_list_of_callSiteAt hcall hreport hclosed
  exact ⟨hname, inner, htext, listLength_alone hlist, hfilled⟩

/-- A name that a text begins with is found there first. -/
theorem occurrences_head {letters : List Char} (hletters : letters ≠ []) (rest : List Char) :
    ∃ others, occurrences letters (letters ++ rest) = ⟨[], letters ++ rest⟩ :: others := by
  obtain ⟨first, word, rfl⟩ := List.exists_cons_of_ne_nil hletters
  have hprefix : (first :: word).isPrefixOf (first :: (word ++ rest)) = true :=
    List.isPrefixOf_iff_prefix.2 (List.prefix_append (first :: word) rest)
  rw [occurrences, if_neg (by simp), List.cons_append, occurrencesFrom, if_pos hprefix]
  exact ⟨_, rfl⟩

/-- **A closed call is the first one of its own text.** -/
theorem IsClosedCall.callSites_eq (hcall : IsClosedCall name.toList inner text.toList)
    (hname : name.toList ≠ []) :
    ∃ others, callSites text name = ⟨text, 1, 1, true⟩ :: others := by
  let place : Place := ⟨[], name.toList ++ '(' :: (inner ++ [')'])⟩
  have hstart : isCallStart name.toList place = true := by simp [isCallStart, place]
  have hreport : callSiteAt name.toList place = some ⟨text, 1, 1, true⟩ := by
    have hafter : place.after = name.toList ++ '(' :: (inner ++ ')' :: []) := rfl
    have hclosed := callSiteAt_closed hafter hcall.closes
    rw [hcall.filled, if_neg Bool.false_ne_true, ← hcall.text_eq, String.ofList_toList] at hclosed
    exact hclosed
  obtain ⟨others, hfirst⟩ := occurrences_head hname ('(' :: (inner ++ [')']))
  rw [callSites, hcall.text_eq, hfirst, List.filter_cons, if_pos hstart, List.filterMap_cons,
    hreport]
  exact ⟨_, rfl⟩

/-! ### What is cut off -/

theorem dropBytes_past {offset : Nat} (hoffset : byteLength list < offset) :
    dropBytes offset list = none := by
  induction list generalizing offset with
  | nil =>
      obtain ⟨before, rfl⟩ := Nat.exists_eq_add_one.2 hoffset
      rfl
  | cons char rest ih =>
      rw [byteLength_cons] at hoffset
      obtain ⟨before, rfl⟩ := Nat.exists_eq_add_one.2 (Nat.lt_of_le_of_lt (Nat.zero_le _) hoffset)
      rw [dropBytes, if_pos (by omega)]
      exact ih (by omega)

/-- A list that is looked for behind a text, or at its end, is not closed. -/
theorem closingParen_past {offset : Nat} (hoffset : text.utf8ByteSize ≤ offset) :
    closingParen text offset = none := by
  rw [← byteLength_toList] at hoffset
  rcases Nat.eq_or_lt_of_le hoffset with heq | hlt
  · have hend := dropBytes_byteLength text.toList []
    rw [List.append_nil] at hend
    rw [closingParen, ← heq, hend]
    rfl
  · rw [closingParen, dropBytes_past hlt]

theorem byteLength_le_of_isPrefix {left right : List Char} (hbegins : left <+: right) :
    byteLength left ≤ byteLength right := by
  obtain ⟨rest, rfl⟩ := hbegins
  rw [byteLength_append]
  exact Nat.le_add_right _ _

/-- **A closed call that is cut off is open**, wherever it is cut. -/
theorem IsClosedCall.closingParen_cut {cut : String}
    (hcall : IsClosedCall name.toList inner text.toList) (hbegins : cut.toList <+: text.toList)
    (hshorter : cut ≠ text) : closingParen cut name.utf8ByteSize = none := by
  rw [hcall.text_eq] at hbegins
  have hname := List.prefix_append name.toList ('(' :: (inner ++ [')']))
  rcases List.prefix_or_prefix_of_prefix hbegins hname with hin | hbehind
  · -- The cut is in the name.
    apply closingParen_past
    rw [← byteLength_toList, ← byteLength_toList]
    exact byteLength_le_of_isPrefix hin
  · -- The cut is in the list, before its last parenthesis.
    obtain ⟨list, hlist⟩ := hbehind
    have hpart : list <+: '(' :: (inner ++ [')']) := by
      rwa [← hlist, List.prefix_append_right_inj] at hbegins
    have hlength : list.length < inner.length + 2 := by
      have hle := hpart.length_le
      simp only [List.length_cons, List.length_append, List.length_nil] at hle
      refine Nat.lt_of_le_of_ne (by omega) fun hlength => hshorter ?_
      have hwhole := hpart.eq_of_length (by simp [hlength])
      rw [← String.toList_inj, hcall.text_eq, ← hlist, hwhole]
    have hopen : listLength list = none := by
      rw [List.prefix_iff_eq_take.1 hpart, listLength_take, hcall.closes]
      simp [Option.filter, Nat.not_le.2 hlength]
    have hplace : (⟨[], cut.toList⟩ : Place).In cut := rfl
    have hclosing := closingParen_offset hplace hlist.symm
    rw [hopen, Option.map_none] at hclosing
    simpa [Place.offset] using hclosing

/-- **The text of a closed call stands by itself.** It is found again in its own text, as a whole
and from the first position on, and no shorter text closes its list. -/
theorem callSites_span (hsite : site ∈ callSites source name) (hclosed : site.terminated = true) :
    (∃ others, callSites site.text name = ⟨site.text, 1, 1, true⟩ :: others)
      ∧ ∀ cut : String, cut.toList <+: site.text.toList → cut ≠ site.text →
          closingParen cut name.utf8ByteSize = none := by
  obtain ⟨hname, inner, hcall⟩ := exists_isClosedCall hsite hclosed
  exact ⟨hcall.callSites_eq hname, fun cut hbegins hshorter =>
    hcall.closingParen_cut hbegins hshorter⟩

/-- The outer call is behind an apostrophe; its list hides a parenthesis in a comment and another
one in a template, whose interpolation holds a call of its own. -/
theorem callSites_span_nested :
    let cut := "tc(/*)*/ \x60)$\x7btc('\x7d)')\x7d\x60"
    let call := cut ++ ")"
    let source := "It's\n a = " ++ call ++ " + '"
    (⟨call, 2, 6, true⟩ : CallSite) ∈ callSites source "tc"
      ∧ (∃ others, callSites call "tc" = ⟨call, 1, 1, true⟩ :: others)
      ∧ closingParen cut 2 = none := by
  intro cut call source
  have hsite : (⟨call, 2, 6, true⟩ : CallSite) ∈ callSites source "tc" := by decide +kernel
  have hspan := callSites_span hsite rfl
  exact ⟨hsite, hspan.1, hspan.2 cut (by decide) (by decide)⟩

end UtilityClasses.Source
