import Mathlib.Data.List.Forall2
import UtilityClasses.Proofs.Positions
import UtilityClasses.Proofs.Spans

/-!
# Line feeds with and without carriage returns

A text may end its lines with a line feed or with a carriage return and a line feed. Calls are found
at the same lines and columns in both. A call also has the same text, unless a line feed is escaped
inside quotes in its list: the backslash is used up by the carriage return, and the quotes end with
the line.
-/

namespace UtilityClasses.Source

open UtilityClasses.Text

/-! ### Carriage returns in front of line feeds -/

/-- A text with a carriage return put in front of every line feed. -/
def withReturns : List Char → List Char
  | [] => []
  | char :: rest =>
    if char = '\n' then '\r' :: '\n' :: withReturns rest else char :: withReturns rest

/-- The same for a text that is given backwards. -/
def withReturnsBehind : List Char → List Char
  | [] => []
  | char :: rest =>
    if char = '\n' then '\n' :: '\r' :: withReturnsBehind rest else char :: withReturnsBehind rest

def returned (text : String) : String := String.ofList (withReturns text.toList)

variable {char : Char} {text rest word name before : List Char} {state : ScanState}

theorem withReturns_lineFeed (rest : List Char) :
    withReturns ('\n' :: rest) = '\r' :: '\n' :: withReturns rest := rfl

theorem withReturns_cons (hchar : char ≠ '\n') (rest : List Char) :
    withReturns (char :: rest) = char :: withReturns rest := if_neg hchar

theorem withReturns_append (left right : List Char) :
    withReturns (left ++ right) = withReturns left ++ withReturns right := by
  induction left with
  | nil => rfl
  | cons char left ih =>
      by_cases hchar : char = '\n'
      · subst hchar
        rw [List.cons_append, withReturns_lineFeed, withReturns_lineFeed, ih, List.cons_append,
          List.cons_append]
      · rw [List.cons_append, withReturns_cons hchar, withReturns_cons hchar, ih, List.cons_append]

/-- A text of one line stays as it is. -/
theorem withReturns_line (hline : '\n' ∉ text) : withReturns text = text := by
  induction text with
  | nil => rfl
  | cons char rest ih =>
      rw [withReturns_cons (List.ne_of_not_mem_cons hline).symm,
        ih (List.not_mem_of_not_mem_cons hline)]

/-- A word that is in one line begins the one text where it begins the other. -/
theorem prefix_withReturns (hline : '\n' ∉ word) (hreturn : '\r' ∉ word) :
    word <+: withReturns text ↔ word <+: text := by
  induction text generalizing word with
  | nil => rfl
  | cons char rest ih =>
      cases word with
      | nil => simp
      | cons first word =>
          by_cases hchar : char = '\n'
          · have hfirst : first ≠ '\r' := (List.ne_of_not_mem_cons hreturn).symm
            have hfirst' : first ≠ '\n' := (List.ne_of_not_mem_cons hline).symm
            simp [hchar, withReturns_lineFeed, List.cons_prefix_cons, hfirst, hfirst']
          · rw [withReturns_cons hchar, List.cons_prefix_cons, List.cons_prefix_cons,
              ih (List.not_mem_of_not_mem_cons hline) (List.not_mem_of_not_mem_cons hreturn)]

theorem head?_withReturns (hline : char ≠ '\n') (hreturn : char ≠ '\r') :
    (withReturns text).head? = some char ↔ text.head? = some char := by
  cases text with
  | nil => rfl
  | cons first rest =>
      by_cases hfirst : first = '\n'
      · simp [hfirst, withReturns_lineFeed, hline.symm, hreturn.symm]
      · rw [withReturns_cons hfirst, List.head?_cons, List.head?_cons]

/-- Both line ends are blank. -/
theorem dropWhile_withReturns (text : List Char) :
    (withReturns text).dropWhile isBlank = withReturns (text.dropWhile isBlank) := by
  induction text with
  | nil => rfl
  | cons char rest ih =>
      by_cases hchar : char = '\n'
      · subst hchar
        exact ih
      · rw [withReturns_cons hchar, List.dropWhile_cons, List.dropWhile_cons]
        split
        · exact ih
        · rw [withReturns_cons hchar]

/-! ### Reading a list -/

/-- Whether the next character is escaped inside quotes. -/
def ScanState.escapesInQuotes (state : ScanState) : Bool :=
  match state.region with
  | .quoted _ => state.swallow
  | _ => false

/-- Whether reading a text meets a line feed that is escaped inside quotes. -/
def continuesQuotes (state : ScanState) : List Char → Bool
  | [] => false
  | char :: rest =>
    (char == '\n' && state.escapesInQuotes)
      || continuesQuotes (state.advance char rest.head?).1 rest

/-- Nothing is escaped in a line comment, and template text stands in no region of code. -/
structure ScanState.IsOrderly (state : ScanState) : Prop where
  unescaped : state.swallow = true → state.region ≠ .lineComment
  template : ∀ outer, state.frames = .template :: outer → state.region = .plain

theorem isOrderly_plain (frames : List Frame) (swallow : Bool) :
    ScanState.IsOrderly ⟨frames, .plain, swallow⟩ :=
  ⟨fun _ => nofun, fun _ _ => rfl⟩

theorem isOrderly_code (braces : Nat) (outer : List Frame) (region : Region) :
    ScanState.IsOrderly ⟨.code braces :: outer, region, false⟩ :=
  ⟨nofun, fun _ => nofun⟩

theorem isOrderly_advancePlain (braces : Nat) (outer : List Frame) (char : Char)
    (following : Option Char) :
    (ScanState.advancePlain braces outer char following).1.IsOrderly := by
  unfold ScanState.advancePlain
  split
  case h_4 =>
    split
    · exact isOrderly_code _ _ _
    · exact ⟨fun _ => nofun, fun _ => nofun⟩
    · exact isOrderly_plain _ _
  case h_6 => split <;> exact isOrderly_plain _ _
  case h_1 | h_2 => exact isOrderly_code _ _ _
  all_goals exact isOrderly_plain _ _

theorem isOrderly_advanceRegion (braces : Nat) (outer : List Frame) (region : Region)
    (char : Char) (following : Option Char) :
    (ScanState.advanceRegion ⟨.code braces :: outer, region, false⟩ char following).1.IsOrderly := by
  cases region with
  | plain => exact isOrderly_code _ _ _
  | quoted quote =>
      simp only [ScanState.advanceRegion]
      split
      · exact ⟨fun _ => Region.noConfusion, by simp⟩
      · split
        · exact isOrderly_code _ _ _
        · split <;> exact isOrderly_code _ _ _
  | lineComment =>
      simp only [ScanState.advanceRegion]
      split <;> exact isOrderly_code _ _ _
  | blockComment =>
      simp only [ScanState.advanceRegion]
      split
      · exact isOrderly_plain _ _
      · exact isOrderly_code _ _ _

theorem isOrderly_advanceTemplate (outer : List Frame) (char : Char) (following : Option Char) :
    (ScanState.advanceTemplate outer char following).IsOrderly := by
  unfold ScanState.advanceTemplate
  split
  case h_3 => split <;> exact isOrderly_plain _ _
  all_goals exact isOrderly_plain _ _

theorem ScanState.IsOrderly.advance (horderly : state.IsOrderly) (char : Char)
    (following : Option Char) : (state.advance char following).1.IsOrderly := by
  obtain ⟨frames, region, swallow⟩ := state
  cases swallow with
  | true => exact ⟨nofun, horderly.template⟩
  | false =>
      cases frames with
      | nil => exact ⟨nofun, fun _ => nofun⟩
      | cons frame outer =>
          cases frame with
          | template => exact isOrderly_advanceTemplate outer char following
          | code braces =>
              cases region with
              | plain => exact isOrderly_advancePlain braces outer char following
              | quoted quote => exact isOrderly_advanceRegion braces outer (.quoted quote) char following
              | lineComment => exact isOrderly_advanceRegion braces outer .lineComment char following
              | blockComment => exact isOrderly_advanceRegion braces outer .blockComment char following

/-- **A carriage return in front of a line feed changes nothing**, unless the line feed is escaped
inside quotes. -/
theorem advance_returned (horderly : state.IsOrderly) (hquotes : state.escapesInQuotes = false)
    (following : Option Char) :
    ((state.advance '\r' (some '\n')).1.advance '\n' following).1
      = (state.advance '\n' following).1 := by
  obtain ⟨frames, region, swallow⟩ := state
  cases frames with
  | nil => cases swallow <;> rfl
  | cons frame outer =>
      cases frame with
      | template =>
          obtain rfl : region = .plain := horderly.template outer rfl
          cases swallow <;> rfl
      | code braces =>
          cases region with
          | plain => cases swallow <;> rfl
          | quoted quote =>
              -- The line feed closes the quotes, and an escape in front of it would end before that.
              obtain rfl : swallow = false := hquotes
              by_cases hreturn : '\r' = quote
              · subst hreturn
                rfl
              · simp [ScanState.advance, ScanState.advanceRegion, hreturn]
          | lineComment =>
              obtain rfl : swallow = false :=
                Bool.eq_false_iff.2 fun hswallow => horderly.unescaped hswallow rfl
              rfl
          | blockComment => cases swallow <;> rfl

/-- A line feed and a carriage return are no different to the character in front of them. -/
theorem advance_lineEnd (state : ScanState) (char : Char) :
    state.advance char (some '\r') = state.advance char (some '\n') := by
  obtain ⟨frames, region, swallow⟩ := state
  cases swallow with
  | true => rfl
  | false =>
      cases frames with
      | nil => rfl
      | cons frame outer =>
          cases frame with
          | template => simp [ScanState.advance, ScanState.advanceTemplate]
          | code braces =>
              cases region with
              | plain =>
                  simp only [ScanState.advance, ScanState.advancePlain]
                  rfl
              | quoted quote => rfl
              | lineComment => rfl
              | blockComment => rfl

theorem advance_withReturns (state : ScanState) (char : Char) (rest : List Char) :
    state.advance char (withReturns rest).head? = state.advance char rest.head? := by
  cases rest with
  | nil => rfl
  | cons first rest =>
      by_cases hfirst : first = '\n'
      · subst hfirst
        exact advance_lineEnd state char
      · rw [withReturns_cons hfirst, List.head?_cons, List.head?_cons]

theorem closeAfter_cons (state : ScanState) (depth : Nat) (hopen : char ≠ '(')
    (hclose : char ≠ ')') (rest : List Char) :
    closeAfter state depth (char :: rest)
      = (closeAfter (state.advance char rest.head?).1 depth rest).map (· + 1) := by
  simp [closeAfter, hopen, hclose]

/-- **A list closes at the same parenthesis whichever way lines end**, unless a line feed is escaped
inside quotes. -/
theorem closeAfter_withReturns (horderly : state.IsOrderly)
    (hquotes : continuesQuotes state text = false) (depth : Nat) :
    closeAfter state depth (withReturns text)
      = (closeAfter state depth text).map fun length => (withReturns (text.take length)).length := by
  induction text generalizing state depth with
  | nil => rfl
  | cons char rest ih =>
      rw [continuesQuotes, Bool.or_eq_false_iff] at hquotes
      have hrest := ih (horderly.advance char rest.head?) hquotes.2
      by_cases hchar : char = '\n'
      · -- Two steps there and one step here lead to the same state.
        subst hchar
        have hescaped : state.escapesInQuotes = false := by simpa using hquotes.1
        rw [withReturns_lineFeed, closeAfter_cons _ _ (by decide) (by decide),
          closeAfter_cons _ _ (by decide) (by decide), closeAfter_cons _ _ (by decide) (by decide),
          List.head?_cons, advance_returned horderly hescaped, advance_withReturns, hrest depth,
          Option.map_map, Option.map_map, Option.map_map]
        rfl
      · have hlength : ∀ length, (withReturns ((char :: rest).take (length + 1))).length
            = (withReturns (rest.take length)).length + 1 := by
          intro length
          rw [List.take_succ_cons, withReturns_cons hchar, List.length_cons]
        rw [withReturns_cons hchar]
        simp only [closeAfter, advance_withReturns, hrest]
        split
        · simp [Function.comp_def, hlength, -List.take_succ_cons]
        · split
          · split
            · simp [withReturns_cons hchar, withReturns]
            · simp [Function.comp_def, hlength, -List.take_succ_cons]
          · simp [Function.comp_def, hlength, -List.take_succ_cons]

theorem listLength_withReturns {list : List Char} (hquotes : continuesQuotes .start list = false) :
    listLength (withReturns list)
      = (listLength list).map fun length => (withReturns (list.take length)).length :=
  closeAfter_withReturns (isOrderly_plain _ _) hquotes 0

/-! ### The places of a text -/

def Place.withReturns (place : Place) : Place :=
  ⟨withReturnsBehind place.before, Source.withReturns place.after⟩

variable {place : Place} {site : CallSite}

theorem withReturnsBehind_cons (hchar : char ≠ '\n') (before : List Char) :
    withReturnsBehind (char :: before) = char :: withReturnsBehind before := if_neg hchar

theorem head?_withReturnsBehind (before : List Char) :
    (withReturnsBehind before).head? = before.head? := by
  cases before with
  | nil => rfl
  | cons char before =>
      by_cases hchar : char = '\n'
      · subst hchar
        rfl
      · rw [withReturnsBehind_cons hchar, List.head?_cons, List.head?_cons]

theorem line_withReturns (place : Place) : place.withReturns.line = place.line := by
  have hcount : (withReturnsBehind place.before).count '\n' = place.before.count '\n' := by
    induction place.before with
    | nil => rfl
    | cons char before ih =>
        by_cases hchar : char = '\n'
        · subst hchar
          have hreturn : ('\r' :: withReturnsBehind before).count '\n'
              = (withReturnsBehind before).count '\n' := List.count_cons_of_ne (by decide)
          rw [List.count_cons_self, ← ih, ← hreturn, ← List.count_cons_self]
          rfl
        · rw [withReturnsBehind_cons hchar, List.count_cons_of_ne hchar, List.count_cons_of_ne hchar,
            ih]
  rw [Place.line, Place.line, ← hcount]
  rfl

theorem column_withReturns (place : Place) : place.withReturns.column = place.column := by
  have hline : (withReturnsBehind place.before).takeWhile (· != '\n')
      = place.before.takeWhile (· != '\n') := by
    induction place.before with
    | nil => rfl
    | cons char before ih =>
        by_cases hchar : char = '\n'
        · subst hchar
          rfl
        · rw [withReturnsBehind_cons hchar, List.takeWhile_cons, List.takeWhile_cons, ih]
  rw [Place.column, Place.column, ← hline]
  rfl

/-- No call starts at a character that is not part of a name. -/
theorem reportAt_of_not_continuesName (hletters : ∀ char ∈ name, continuesName char = true)
    (hne : name ≠ []) (hchar : continuesName char = false) (before rest : List Char) :
    reportAt name ⟨before, char :: rest⟩ = none := by
  have hcall : ¬isCallPlace name ⟨before, char :: rest⟩ = true := by
    rw [isCallPlace_iff]
    rintro ⟨hbegins, -⟩
    obtain ⟨first, letters, rfl⟩ := List.exists_cons_of_ne_nil hne
    obtain rfl : first = char := (List.cons_prefix_cons.1 hbegins).1
    rw [hletters first List.mem_cons_self] at hchar
    exact absurd hchar (by decide)
  rw [reportAt]
  exact if_neg hcall

theorem filterMap_reportAt_withReturns (hletters : ∀ char ∈ name, continuesName char = true)
    (hne : name ≠ []) (before text : List Char) :
    (placesFrom (withReturnsBehind before) (withReturns text)).filterMap (reportAt name)
      = ((placesFrom before text).map Place.withReturns).filterMap (reportAt name) := by
  have hlineEnd := fun (char : Char) (hchar : continuesName char = false) before rest =>
    reportAt_of_not_continuesName hletters hne hchar before rest
  induction text generalizing before with
  | nil => rfl
  | cons char rest ih =>
      rw [placesFrom, List.map_cons, List.filterMap_cons, ← ih (char :: before)]
      by_cases hchar : char = '\n'
      · subst hchar
        rw [Place.withReturns, withReturns_lineFeed, placesFrom, placesFrom, List.filterMap_cons,
          List.filterMap_cons, hlineEnd '\r' (by decide), hlineEnd '\n' (by decide)]
        rfl
      · rw [Place.withReturns, withReturns_cons hchar, placesFrom, List.filterMap_cons,
          withReturnsBehind_cons hchar]

/-! ### The calls of a text -/

theorem isCallPlace_withReturns (hletters : ∀ char ∈ name, continuesName char = true)
    (place : Place) : isCallPlace name place.withReturns = isCallPlace name place := by
  have hcall (char : Char) (hchar : continuesName char = false) (hparen : char ≠ '(') :
      char ∉ name ++ ['('] := by
    rw [List.mem_append, List.mem_singleton, not_or]
    refine ⟨fun hmem => ?_, hparen⟩
    rw [hletters char hmem] at hchar
    exact absurd hchar (by decide)
  rw [Bool.eq_iff_iff, isCallPlace_iff, isCallPlace_iff, Place.withReturns,
    prefix_withReturns (hcall '\n' (by decide) (by decide)) (hcall '\r' (by decide) (by decide)),
    head?_withReturnsBehind]

theorem isSpecial_of_isBlank (hblank : isBlank char = true) : isSpecial char = false ∧ char ≠ '/' := by
  refine ⟨?_, ?_⟩
  · rw [Bool.eq_false_iff]
    intro hspecial
    simp only [isSpecial, List.contains_eq_mem, List.mem_cons, List.not_mem_nil, or_false,
      decide_eq_true_eq] at hspecial
    rcases hspecial with rfl | rfl | rfl | rfl | rfl | rfl | rfl <;>
      exact absurd hblank (by decide)
  · rintro rfl
    exact absurd hblank (by decide)

theorem balanced_of_blank (hblank : text.all isBlank = true) : Balanced .code text := by
  induction text with
  | nil => exact .nil .code
  | cons char rest ih =>
      rw [List.all_cons, Bool.and_eq_true] at hblank
      obtain ⟨hplain, hslash⟩ := isSpecial_of_isBlank hblank.1
      exact .plain hplain (fun heq => absurd heq hslash) (ih hblank.2)

/-- A list is blank when the parenthesis that closes it is the first thing in it. -/
theorem callSiteAt_eq_none (hafter : place.after = name ++ '(' :: rest) :
    callSiteAt name place = none ↔ (rest.dropWhile isBlank).head? = some ')' := by
  constructor
  · intro hnone
    cases hlist : listLength ('(' :: rest) with
    | none =>
        rw [callSiteAt_open hafter hlist] at hnone
        exact absurd hnone nofun
    | some length =>
        obtain ⟨inner, after, rfl, rfl⟩ := listLength_split hlist
        rw [callSiteAt_closed hafter hlist] at hnone
        split at hnone
        · next hblank =>
          rw [List.dropWhile_append_of_pos (by simpa using hblank)]
          rfl
        · exact absurd hnone nofun
  · intro hhead
    obtain ⟨after, hdrop⟩ := List.head?_eq_some_iff.1 hhead
    have hrest : rest = rest.takeWhile isBlank ++ ')' :: after := by
      rw [← hdrop, List.takeWhile_append_dropWhile]
    have hblank : (rest.takeWhile isBlank).all isBlank = true := List.all_takeWhile
    rw [hrest] at hafter
    rw [callSiteAt_closed hafter (listLength_of_balanced (balanced_of_blank hblank) after),
      if_pos hblank]

/-- One call in a text whose lines end with line feeds and in the one with carriage returns too. -/
structure IsReturned (name : List Char) (site other : CallSite) : Prop where
  line : other.line = site.line
  column : other.column = site.column
  unchanged : continuesQuotes .start (site.text.toList.drop name.length) = false →
    other.text = returned site.text ∧ other.terminated = site.terminated

theorem after_withReturns (hline : '\n' ∉ name) (hafter : place.after = name ++ '(' :: rest) :
    place.withReturns.after = name ++ '(' :: withReturns rest := by
  rw [Place.withReturns, hafter, withReturns_append, withReturns_line hline,
    withReturns_cons (by decide)]

theorem withReturns_list (inner : List Char) :
    withReturns ('(' :: (inner ++ [')'])) = '(' :: (withReturns inner ++ [')']) := by
  rw [withReturns_cons (by decide), withReturns_append]
  rfl

/-- Only the list itself decides whether it closes at the same parenthesis. -/
theorem listLength_withReturns_closed {inner after : List Char}
    (hlist : listLength ('(' :: (inner ++ ')' :: after)) = some (inner.length + 2))
    (hquotes : continuesQuotes .start ('(' :: (inner ++ [')'])) = false) :
    listLength ('(' :: (withReturns inner ++ ')' :: withReturns after))
      = some ((withReturns inner).length + 2) := by
  have halone := listLength_withReturns hquotes
  rw [listLength_alone hlist, Option.map_some, List.take_of_length_le (by simp), withReturns_list]
    at halone
  simpa using listLength_append halone (withReturns after)

/-- What is reported at a place of one text and at the same place of the other. -/
theorem IsReturned.of_callSiteAt {other : CallSite} (hline : '\n' ∉ name)
    (hafter : place.after = name ++ '(' :: rest) (hsite : callSiteAt name place = some site)
    (hother : callSiteAt name place.withReturns = some other) : IsReturned name site other := by
  have hposition : other.position = site.position := by
    rw [position_callSiteAt hother, position_callSiteAt hsite, Place.position, Place.position,
      line_withReturns, column_withReturns]
  rw [CallSite.position, CallSite.position, toLex_inj, Prod.mk.injEq] at hposition
  refine ⟨hposition.1, hposition.2, fun hquotes => ?_⟩
  have hafter' := after_withReturns hline hafter
  cases hlist : listLength ('(' :: rest) with
  | none =>
      rw [callSiteAt_open hafter hlist, Option.some.injEq] at hsite
      rw [← hsite, String.toList_ofList, hafter, List.drop_left] at hquotes
      have hopen := listLength_withReturns hquotes
      rw [hlist, Option.map_none, withReturns_cons (by decide)] at hopen
      rw [callSiteAt_open hafter' hopen, Option.some.injEq] at hother
      rw [← hsite, ← hother, returned, String.toList_ofList]
      exact ⟨rfl, rfl⟩
  | some length =>
      obtain ⟨inner, after, rfl, rfl⟩ := listLength_split hlist
      rw [callSiteAt_closed hafter hlist] at hsite
      split at hsite
      · exact absurd hsite (by simp)
      · rw [Option.some.injEq] at hsite
        rw [← hsite, String.toList_ofList, List.drop_left] at hquotes
        rw [withReturns_append, withReturns_cons (by decide)] at hafter'
        rw [callSiteAt_closed hafter' (listLength_withReturns_closed hlist hquotes)] at hother
        split at hother
        · exact absurd hother (by simp)
        · rw [Option.some.injEq] at hother
          rw [← hsite, ← hother, returned, String.toList_ofList, withReturns_append,
            withReturns_line hline, withReturns_list]
          exact ⟨rfl, rfl⟩

theorem reportAt_withReturns (hletters : ∀ char ∈ name, continuesName char = true)
    (place : Place) :
    Option.Rel (IsReturned name) (reportAt name place) (reportAt name place.withReturns) := by
  have hline : '\n' ∉ name := fun hmem => absurd (hletters '\n' hmem) (by decide)
  rw [reportAt, reportAt, isCallPlace_withReturns hletters]
  cases hstart : isCallPlace name place with
  | false => exact .none
  | true =>
      obtain ⟨rest, hafter⟩ := exists_list_of_isCallPlace hstart
      have hblank : callSiteAt name place.withReturns = none ↔ callSiteAt name place = none := by
        rw [callSiteAt_eq_none (after_withReturns hline hafter), callSiteAt_eq_none hafter,
          dropWhile_withReturns, head?_withReturns (by decide) (by decide)]
      rw [if_pos rfl, if_pos rfl]
      cases hsite : callSiteAt name place with
      | none =>
          rw [hblank.2 hsite]
          exact .none
      | some site =>
          obtain ⟨other, hother⟩ : ∃ other, callSiteAt name place.withReturns = some other :=
            Option.ne_none_iff_exists'.1 fun hnone => by simp [hblank.1 hnone] at hsite
          rw [hother]
          exact .some (.of_callSiteAt hline hafter hsite hother)

/-- **Calls are found at the same lines and columns whichever way lines end.** A call has the same
text too, and is closed in both texts or in none, unless a line feed is escaped inside quotes in its
list. -/
theorem callSites_returned (source : String) {name : String} (hname : isIdentifier name = true) :
    List.Forall₂ (IsReturned name.toList) (callSites source name)
      (callSites (returned source) name) := by
  obtain ⟨hne, hletters⟩ := continuesName_of_isIdentifier hname
  have hreturned : (returned source).toList = withReturns source.toList := String.toList_ofList
  have hreports := filterMap_reportAt_withReturns hletters hne [] source.toList
  rw [List.filterMap_map] at hreports
  have hsame : List.Forall₂ Eq (placesFrom [] source.toList) (placesFrom [] source.toList) :=
    List.forall₂_same.2 fun _ _ => rfl
  rw [callSites_eq_reports source hname, callSites_eq_reports (returned source) hname, hreturned]
  refine hreports ▸ List.rel_filterMap (fun place other heq => ?_) hsame
  subst heq
  exact reportAt_withReturns hletters place

/-- One call has a line feed escaped in a template and a quote in a line comment, the other one ends
with the text. -/
theorem callSites_returned_template :
    let source := "a\n tc(\x60\\\n)\x60 // '\n) tc('\n"
    isIdentifier "tc" = true
      ∧ List.Forall₂ (IsReturned ['t', 'c']) (callSites source "tc")
        (callSites (returned source) "tc")
      ∧ callSites source "tc" = [⟨"tc(\x60\\\n)\x60 // '\n)", 2, 2, true⟩, ⟨"tc('\n", 4, 3, false⟩]
      ∧ callSites (returned source) "tc"
        = [⟨"tc(\x60\\\r\n)\x60 // '\r\n)", 2, 2, true⟩, ⟨"tc('\r\n", 4, 3, false⟩] := by
  intro source
  have hname : isIdentifier "tc" = true := by decide
  exact ⟨hname, callSites_returned source hname, by decide +kernel, by decide +kernel⟩

/-- The backslash in the quotes is used up by the carriage return, and the list closes inside them. -/
theorem escaped_line_feed_closes_quotes :
    let source := "tc('\\\n)')"
    let other := "tc('\\\r\n)')"
    isIdentifier "tc" = true ∧ '\r' ∉ source.toList
      ∧ returned source = other
      ∧ callSites source "tc" = [⟨source, 1, 1, true⟩]
      ∧ callSites other "tc" = [⟨"tc('\\\r\n)", 1, 1, true⟩]
      ∧ ¬List.Forall₂ (fun site partner => partner = { site with text := returned site.text })
        (callSites source "tc") (callSites (returned source) "tc") := by
  intro source other
  have hreturned : returned source = other := by decide
  have hcalls : callSites source "tc" = [⟨source, 1, 1, true⟩] := by decide +kernel
  have hothers : callSites other "tc" = [⟨"tc('\\\r\n)", 1, 1, true⟩] := by decide +kernel
  refine ⟨by decide, by decide, hreturned, hcalls, hothers, ?_⟩
  rw [hreturned, hcalls, hothers, List.forall₂_cons]
  rintro ⟨hsite, -⟩
  rw [hreturned] at hsite
  exact absurd hsite (by decide)

end UtilityClasses.Source
