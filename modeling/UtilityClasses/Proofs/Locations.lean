import Mathlib.Data.List.TakeWhile
import UtilityClasses.CommandLine.Generate
import UtilityClasses.Proofs.Aggregation
import UtilityClasses.Proofs.Compositional
import UtilityClasses.Proofs.OpenCalls
import UtilityClasses.Proofs.Spans

/-!
# Lines and columns lead back to the calls

The line and the column that are reported for a call are found again by splitting the text at its
line ends and counting characters in the line. They lead to the byte at which the call starts. Since
they increase from call to call, the warnings of a text are in order from the start, and sorting
them together with others leaves them in the same order.
-/

namespace UtilityClasses.Source

open UtilityClasses.Text

/-! ### From a line and a column to an offset -/

/-- The byte offset of a column of a line, both counted from one. A column may stand behind the last
character of its line. -/
def offsetAt? (source : String) : Nat → Nat → Option Nat
  | line + 1, column + 1 =>
    let lines := source.toList.splitOn '\n'
    lines[line]?.bind fun text =>
      if column ≤ text.length then
        some (byteLength ((lines.take line).flatMap (· ++ ['\n'])) + byteLength (text.take column))
      else none
  | _, _ => none

theorem splitOn_lineEnd (text : List Char) :
    ('\n' :: text).splitOn '\n' = [] :: text.splitOn '\n' := by
  simp [List.splitOn, List.splitOnP_cons_eq_if_modifyHead]

theorem splitOn_cons {char : Char} (hchar : char ≠ '\n') (text : List Char) :
    (char :: text).splitOn '\n' = (text.splitOn '\n').modifyHead (char :: ·) := by
  simp [List.splitOn, List.splitOnP_cons_eq_if_modifyHead, hchar]

/-- The lines above a place, what stands before it in its own line, and the lines from there on. -/
theorem exists_lines (left right : List Char) :
    ∃ above here behind below,
      left = above.flatMap (· ++ ['\n']) ++ here
        ∧ '\n' ∉ here
        ∧ above.length = left.count '\n'
        ∧ (left ++ right).splitOn '\n' = above ++ (here ++ behind) :: below := by
  induction left with
  | nil =>
      obtain ⟨behind, below, hsplit⟩ := List.exists_cons_of_ne_nil (List.splitOn_ne_nil '\n' right)
      exact ⟨[], [], behind, below, rfl, List.not_mem_nil, rfl, hsplit⟩
  | cons char rest ih =>
      obtain ⟨above, here, behind, below, hrest, hhere, hcount, hsplit⟩ := ih
      by_cases hchar : char = '\n'
      · subst hchar
        refine ⟨[] :: above, here, behind, below, ?_, hhere, ?_, ?_⟩
        · rw [hrest]
          rfl
        · rw [List.length_cons, List.count_cons_self, hcount]
        · rw [List.cons_append, splitOn_lineEnd, hsplit, List.cons_append]
      · have hstay : (char :: rest).count '\n' = rest.count '\n' := List.count_cons_of_ne hchar
        rw [List.cons_append, splitOn_cons hchar, hsplit, hstay, ← hcount, hrest]
        cases above with
        | nil =>
            have hown : '\n' ∉ char :: here := by simp [Ne.symm hchar, hhere]
            exact ⟨[], char :: here, behind, below, rfl, hown, rfl, rfl⟩
        | cons line above =>
            exact ⟨(char :: line) :: above, here, behind, below, rfl, hhere, rfl, rfl⟩

/-- Of what stands before a place, the part in its own line goes back to the nearest line end. -/
theorem takeWhile_ownLine (above : List (List Char)) {here : List Char} (hhere : '\n' ∉ here) :
    (above.flatMap (· ++ ['\n']) ++ here).reverse.takeWhile (· != '\n') = here.reverse := by
  have hown : here.reverse.takeWhile (· != '\n') = here.reverse := by
    rw [List.takeWhile_eq_self_iff]
    intro char hchar
    rw [bne_iff_ne]
    rintro rfl
    exact hhere (List.mem_reverse.1 hchar)
  rcases List.eq_nil_or_concat above with rfl | ⟨first, line, rfl⟩
  · exact hown
  · have hends : ((first ++ [line]).flatMap (· ++ ['\n']) ++ here).reverse
        = here.reverse ++ '\n' :: (first.flatMap (· ++ ['\n']) ++ line).reverse := by
      simp
    rw [List.concat_eq_append, hends, takeWhile_line, hown]

/-- **The line and the column of a place lead to its offset.** -/
theorem offsetAt?_place {source : String} {place : Place} (hplace : place.In source) :
    offsetAt? source place.line place.column = some place.offset := by
  obtain ⟨above, here, behind, below, hleft, hhere, hcount, hsplit⟩ :=
    exists_lines place.before.reverse place.after
  have hline : place.before.count '\n' = above.length := by
    rw [hcount, List.count_reverse]
  have hcolumn : (place.before.takeWhile (· != '\n')).length = here.length := by
    rw [← List.reverse_reverse place.before, hleft, takeWhile_ownLine above hhere,
      List.length_reverse]
  have hoffset : place.offset = byteLength (above.flatMap (· ++ ['\n'])) + byteLength here := by
    rw [Place.offset, ← byteLength_reverse, hleft, byteLength_append]
  rw [Place.line, Place.column, hline, hcolumn, hoffset, offsetAt?, ← hplace, hsplit]
  simp

/-! ### The calls of a text -/

/-- A call stands where its line and its column say. -/
structure LocatedCall.IsAt (source : String) (call : LocatedCall) : Prop where
  located : offsetAt? source call.site.line call.site.column = some call.offset
  written : slice source call.offset (call.offset + call.site.text.utf8ByteSize) = call.site.text

theorem exists_text_callSiteAt {name : List Char} {place : Place} {site : CallSite}
    (hsite : callSiteAt name place = some site) :
    ∃ behind, place.after = site.text.toList ++ behind := by
  rw [callSiteAt] at hsite
  split at hsite
  · split at hsite
    · exact absurd hsite (by simp)
    · rw [← Option.some.inj hsite, String.toList_ofList]
      exact ⟨_, (List.take_append_drop _ _).symm⟩
  · rw [← Option.some.inj hsite, String.toList_ofList]
    exact ⟨[], (List.append_nil _).symm⟩

theorem isAt_of_mem_locatedCalls {source name : String} {call : LocatedCall}
    (hcall : call ∈ locatedCalls source name) : call.IsAt source := by
  obtain ⟨place, hplace, -, hsite, hoffset⟩ := exists_place_of_mem_locatedCalls hcall
  refine ⟨?_, ?_⟩
  · obtain ⟨hline, hcolumn⟩ := Prod.mk.inj (toLex.injective (position_callSiteAt hsite))
    rw [hline, hcolumn, offsetAt?_place hplace, hoffset]
  · obtain ⟨behind, hafter⟩ := exists_text_callSiteAt hsite
    rw [← hoffset, ← byteLength_toList, slice_offset hplace hafter, String.ofList_toList]

end UtilityClasses.Source

namespace UtilityClasses

open Source

/-! ### The order of warnings -/

namespace Warning

instance : Std.TransCmp Warning.order :=
  inferInstanceAs (Std.TransCmp
    (compareLex (compareOn Warning.path) <| compareLex (compareOn Warning.line) <|
      compareLex (compareOn Warning.column) <|
      compareLex (compareOn fun warning : Warning => warning.kind.rank) <|
      compareLex (compareOn Warning.snippet) (compareOn Warning.error)))

theorem isLE_order (left right : Warning) :
    (left.order right != .gt) = (left.order right).isLE := by
  cases left.order right <;> rfl

/-- Sorting leaves warnings that are in order in that order, whatever else is sorted with them. -/
theorem sublist_sort {warnings all : List Warning}
    (hordered : warnings.Pairwise fun left right => left.order right = .lt)
    (hsub : warnings.Sublist all) : warnings.Sublist (sort all) := by
  refine List.sublist_mergeSort ?_ ?_ (hordered.imp ?_) hsub
  · intro first second third
    rw [isLE_order, isLE_order, isLE_order]
    exact Std.TransCmp.isLE_trans
  · intro left right
    have hswap : right.order left = (left.order right).swap := Std.OrientedCmp.eq_swap
    rw [isLE_order, isLE_order, hswap]
    cases left.order right <;> rfl
  · intro left right hlt
    rw [hlt]
    rfl

theorem order_eq_lt {left right : Warning} (hpath : left.path = right.path)
    (hlt : toLex (left.line, left.column) < toLex (right.line, right.column)) :
    left.order right = .lt := by
  have hself : compare right.path right.path = .eq := Std.ReflCmp.compare_self
  have hsame : compareText left.path right.path = .eq := by
    rw [hpath]
    exact hself
  rw [order, hsame, Ordering.eq_then]
  rcases Prod.Lex.toLex_lt_toLex.1 hlt with hline | ⟨hline, hcolumn⟩
  · rw [Nat.compare_eq_lt.2 hline]
    rfl
  · rw [Nat.compare_eq_eq.2 hline, Nat.compare_eq_lt.2 hcolumn]
    rfl

end Warning

/-- The warnings about calls in order are in order. -/
theorem warningsOf_pairwise (name path : String) {sites : List CallSite}
    (hsites : sites.Pairwise fun left right => left.position < right.position) :
    (warningsOf name path sites).Pairwise fun left right => left.order right = .lt := by
  induction hsites with
  | nil => exact .nil
  | @cons site rest hbefore _ ih =>
      have hrest : warningsOf name path (site :: rest)
          = warningsOf name path [site] ++ warningsOf name path rest :=
        warningsOf_append name path [site] rest
      rw [hrest]
      cases hresolve : resolveCall name site.text with
      | ok classes =>
          have hnone : warningsOf name path [site] = [] := by
            simp [warningsOf, failures, CallSite.outcome, hresolve, Except.mapError]
          rwa [hnone, List.nil_append]
      | error cause =>
          have hone : warningsOf name path [site] = [site.warning path cause] := by
            simp [warningsOf, failures, CallSite.outcome, hresolve, Except.mapError]
          rw [hone, List.singleton_append]
          refine .cons (fun warning hwarning => ?_) ih
          obtain ⟨other, hother, otherCause, rfl⟩ := exists_warning_of_mem hwarning
          exact Warning.order_eq_lt rfl (hbefore other hother)

/-- **The reported locations are exact and in order.** The line and the column of each call lead to
the byte where its text starts, they increase from call to call, and so do the warnings, whose order
the warnings of a whole run keep. -/
theorem callSites_located (name : String) (source : SourceText) :
    (locatedCalls source.content name).map LocatedCall.site = callSites source.content name
      ∧ (∀ call ∈ locatedCalls source.content name, call.IsAt source.content)
      ∧ ((callSites source.content name).Pairwise fun left right =>
          left.position < right.position)
      ∧ ((extractFile name source).warnings.Pairwise fun left right => left.order right = .lt)
      ∧ ∀ scan sources unreadable, source ∈ sources →
          (extractFile name source).warnings.Sublist
            (CommandLine.Generation.warnings ⟨scan, extract name sources, unreadable⟩) := by
  have hordered := warningsOf_pairwise name source.path (callSites_pairwise source.content name)
  refine ⟨map_site_locatedCalls _ _, fun call hcall => isAt_of_mem_locatedCalls hcall,
    callSites_pairwise _ _, hordered, fun scan sources unreadable hsource => ?_⟩
  refine Warning.sublist_sort hordered ((List.Sublist.trans ?_ (List.sublist_append_right _ _)))
  rw [warnings_extract, List.flatMap_def]
  exact List.sublist_flatten_of_mem (List.mem_map_of_mem hsource)

/-- Behind a character of two bytes and a carriage return, a second call stands in the list of the
first one. Its warning is read among those of another text. -/
theorem callSites_located_among_lines :
    let text := "é:tc(:,\r\n 'é' tc(:))\n\ntc(:"
    let call : LocatedCall := ⟨16, ⟨"tc(:)", 2, 6, true⟩⟩
    call ∈ locatedCalls text "tc"
      ∧ call.IsAt text
      ∧ (extractFile "tc" ⟨"a.js", text⟩).warnings.Sublist
          (CommandLine.Generation.warnings
            ⟨⟨["b.js", "a.js"], 0, []⟩, extract "tc" [⟨"b.js", "tc(:"⟩, ⟨"a.js", text⟩],
              [.unreadable "c.js" "no text"]⟩) := by
  intro text call
  have hcall : call ∈ locatedCalls text "tc" := by decide +kernel
  obtain ⟨-, hlocated, -, -, hsorted⟩ := callSites_located "tc" ⟨"a.js", text⟩
  exact ⟨hcall, hlocated _ hcall, hsorted _ _ _ (List.mem_cons_of_mem _ List.mem_cons_self)⟩

end UtilityClasses
