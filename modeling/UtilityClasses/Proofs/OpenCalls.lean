import UtilityClasses.Proofs.LiteralCall
import UtilityClasses.Proofs.Positions

/-!
# Calls that are never closed

A call whose list is never closed runs to the end of the text. It is reported, and adds no classes,
exactly when its argument cannot be parsed. A text may also end right behind a complete argument: such
a call is not reported, and its classes are collected like those of a closed one.
-/

namespace UtilityClasses

open Json (Value Fields)
open Source
open Text

/-! ### What the calls of a text add -/

def classesOf (name : String) (sites : List CallSite) : List String :=
  successes (sites.map fun site => resolveCall name site.text)

def warningsOf (name path : String) (sites : List CallSite) : List Warning :=
  failures (sites.map (CallSite.outcome name path))

/-- The warnings at the line and the column of a call. -/
def FileExtraction.warningsAt (file : FileExtraction) (site : CallSite) : List Warning :=
  file.warnings.filter fun warning => warning.line = site.line ∧ warning.column = site.column

/-- A call between others gets exactly one warning, as a call that is never closed, and the classes
are those of the others. -/
structure IsReported (name : String) (source : SourceText) (before : List CallSite)
    (site : CallSite) (after : List CallSite) : Prop where
  warned : ∃ warning, (extractFile name source).warningsAt site = [warning]
    ∧ warning.kind = .unterminatedCall
  omitted : (extractFile name source).classes = classesOf name before ++ classesOf name after

/-- A call between others gets no warning, and its class string stands among those of the others. -/
structure IsCollected (name : String) (source : SourceText) (before : List CallSite)
    (site : CallSite) (classes : String) (after : List CallSite) : Prop where
  silent : (extractFile name source).warningsAt site = []
  counted : (extractFile name source).classes
    = classesOf name before ++ classes :: classesOf name after

variable {name path : String} {source : SourceText} {before after sites : List CallSite}
  {site : CallSite}

theorem classes_extractFile (name : String) (source : SourceText) :
    (extractFile name source).classes = classesOf name (callSites source.content name) := by
  have houtcome : ∀ site : CallSite, (site.outcome name source.path).toOption
      = (resolveCall name site.text).toOption := by
    intro site
    rw [CallSite.outcome]
    cases resolveCall name site.text <;> rfl
  rw [extractFile, classesOf, successes, successes, List.filterMap_map, List.filterMap_map]
  exact List.filterMap_congr fun site _ => houtcome site

theorem classesOf_append (name : String) (left right : List CallSite) :
    classesOf name (left ++ right) = classesOf name left ++ classesOf name right := by
  simp only [classesOf, successes, List.map_append, List.filterMap_append]

theorem warningsOf_append (name path : String) (left right : List CallSite) :
    warningsOf name path (left ++ right)
      = warningsOf name path left ++ warningsOf name path right := by
  simp only [warningsOf, failures, List.map_append, List.filterMap_append]

/-- Every warning is that of a call. -/
theorem exists_warning_of_mem {warning : Warning} (hwarning : warning ∈ warningsOf name path sites) :
    ∃ site ∈ sites, ∃ cause, warning = site.warning path cause := by
  rw [warningsOf, failures, List.mem_filterMap] at hwarning
  obtain ⟨outcome, houtcome, hfailed⟩ := hwarning
  obtain ⟨site, hsite, rfl⟩ := List.mem_map.1 houtcome
  refine ⟨site, hsite, ?_⟩
  rw [CallSite.outcome] at hfailed
  cases hresolve : resolveCall name site.text with
  | ok classes => simp [hresolve, Except.mapError] at hfailed
  | error cause => exact ⟨cause, by simpa [hresolve, Except.mapError] using hfailed.symm⟩

/-- Calls at other positions give no warning at the position of a call. -/
theorem filter_warningsOf_elsewhere (helsewhere : ∀ other ∈ sites, other.position ≠ site.position) :
    (warningsOf name path sites).filter
      (fun warning => warning.line = site.line ∧ warning.column = site.column) = [] := by
  rw [List.filter_eq_nil_iff]
  intro warning hwarning hat
  obtain ⟨other, hother, cause, rfl⟩ := exists_warning_of_mem hwarning
  obtain ⟨hline, hcolumn⟩ := of_decide_eq_true hat
  exact helsewhere other hother (congrArg toLex (Prod.ext hline hcolumn))

/-- At the position of a call stands its own warning, if it gets one, and no other. -/
theorem warningsAt_eq (hsites : callSites source.content name = before ++ site :: after) :
    (extractFile name source).warningsAt site = warningsOf name source.path [site] := by
  have hordered := callSites_pairwise source.content name
  rw [hsites, List.pairwise_append, List.pairwise_cons] at hordered
  obtain ⟨-, ⟨hafter, -⟩, hbefore⟩ := hordered
  have hleft : ∀ other ∈ before, other.position ≠ site.position := fun other hother =>
    (hbefore other hother site List.mem_cons_self).ne
  have hright : ∀ other ∈ after, other.position ≠ site.position := fun other hother =>
    (hafter other hother).ne'
  have hown : ∀ warning ∈ warningsOf name source.path [site],
      decide (warning.line = site.line ∧ warning.column = site.column) = true := by
    intro warning hwarning
    obtain ⟨other, hother, cause, rfl⟩ := exists_warning_of_mem hwarning
    rw [List.mem_singleton.1 hother]
    exact decide_eq_true ⟨rfl, rfl⟩
  have hall : (extractFile name source).warnings
      = warningsOf name source.path before
        ++ (warningsOf name source.path [site] ++ warningsOf name source.path after) := by
    rw [← warningsOf_append, ← warningsOf_append, List.singleton_append, ← hsites]
    rfl
  rw [FileExtraction.warningsAt, hall, List.filter_append, List.filter_append,
    filter_warningsOf_elsewhere hleft, filter_warningsOf_elsewhere hright,
    List.filter_eq_self.2 hown, List.nil_append, List.append_nil]

theorem classes_eq (hsites : callSites source.content name = before ++ site :: after) :
    (extractFile name source).classes
      = classesOf name before ++ (classesOf name [site] ++ classesOf name after) := by
  rw [classes_extractFile, hsites, ← classesOf_append, ← classesOf_append, List.singleton_append]

/-! ### Reported or collected -/

theorem IsReported.of_error {cause : Script.SyntaxError}
    (hsites : callSites source.content name = before ++ site :: after)
    (hopen : site.terminated = false) (hresolve : resolveCall name site.text = .error cause) :
    IsReported name source before site after where
  warned := by
    refine ⟨site.warning source.path cause, ?_, ?_⟩
    · rw [warningsAt_eq hsites]
      simp [warningsOf, failures, CallSite.outcome, hresolve, Except.mapError]
    · rw [CallSite.warning, hopen, if_neg Bool.false_ne_true]
  omitted := by
    have hnone : classesOf name [site] = [] := by
      simp [classesOf, successes, hresolve, Except.toOption]
    rw [classes_eq hsites, hnone, List.nil_append]

theorem IsCollected.of_ok {classes : String}
    (hsites : callSites source.content name = before ++ site :: after)
    (hresolve : resolveCall name site.text = .ok classes) :
    IsCollected name source before site classes after where
  silent := by
    rw [warningsAt_eq hsites]
    simp [warningsOf, failures, CallSite.outcome, hresolve, Except.mapError]
  counted := by
    have hone : classesOf name [site] = [classes] := by
      simp [classesOf, successes, hresolve, Except.toOption]
    rw [classes_eq hsites, hone, List.singleton_append]

theorem IsReported.not_isCollected {classes : String}
    (hreported : IsReported name source before site after) :
    ¬IsCollected name source before site classes after := by
  intro hcollected
  obtain ⟨warning, hwarning, -⟩ := hreported.warned
  rw [hcollected.silent] at hwarning
  exact absurd hwarning (List.cons_ne_nil _ _).symm

theorem resolveCall_eq_error {cause : Script.SyntaxError} {call : String} :
    resolveCall name call = .error cause
      ↔ Script.parseExpression (argumentText call name) = .error cause := by
  rw [resolveCall, evaluateCall]
  cases Script.parseExpression (argumentText call name) with
  | ok expr =>
      constructor
      · intro hresolve
        cases hresolve
      · intro hparse
        cases hparse
  | error found =>
      constructor
      · intro hresolve
        rw [Except.error.inj hresolve]
      · intro hparse
        rw [Except.error.inj hparse]
        rfl

/-- A text may end right behind a literal that is the argument of a call. The call is never closed,
and yet its classes are collected like those of a closed one. -/
theorem exists_isCollected_literal {host : String} {fields : Fields}
    (hjson : (Value.object fields).IsJson) (hhost : EndsOutsideName host) (path : String) :
    ∃ before site classes after,
      callSites (host ++ "tc(" ++ (Value.object fields).compact) defaultFunctionName
          = before ++ site :: after
        ∧ site.terminated = false
        ∧ IsCollected defaultFunctionName ⟨path, host ++ "tc(" ++ (Value.object fields).compact⟩
            before site classes after
        ∧ (wordsOf (resolveValue (.object fields))).Sublist (wordsOf classes) := by
  have hbalanced : Balanced .code (Value.object fields).compact.toList := by
    have hempty := Json.balanced_compact (.object fields) hjson (.nil .code)
    rwa [List.append_nil] at hempty
  have hsource : (host ++ "tc(" ++ (Value.object fields).compact).toList
      = host.toList ++ 't' :: 'c' :: '(' :: (Value.object fields).compact.toList := by simp
  let place : Place :=
    ⟨host.toList.reverse, ['t', 'c'] ++ '(' :: (Value.object fields).compact.toList⟩
  have hafter : place.after = ['t', 'c'] ++ '(' :: (Value.object fields).compact.toList := rfl
  have hopened := callSiteAt_open hafter (listLength_of_unclosed hbalanced)
  obtain ⟨before, after, hsites⟩ :=
    List.append_of_mem (mem_callSites_behind hhost hsource hopened)
  have hargument : argumentText (String.ofList place.after) defaultFunctionName
      = (Value.object fields).compact := by
    have hcall : (String.ofList place.after).toList = defaultFunctionName.toList ++ '(' ::
        ('\x7b' :: Json.joined (Json.compactFields fields) ++ ['\x7d']) := by
      rw [String.toList_ofList, hafter, Json.compact_object]
      rfl
    have hbrace : isBlank '\x7d' = false := by decide
    have hlast : ('\x7b' :: Json.joined (Json.compactFields fields) ++ ['\x7d']).getLast?
        ≠ some ')' := by
      rw [List.getLast?_concat]
      decide
    rw [argumentText_behind hcall hbrace, dropTrailing, if_neg hlast, List.cons_append,
      ← Json.compact_object, String.ofList_toList]
  obtain ⟨expr, hspells, hresolve⟩ := resolveCall_of_argumentText hjson hargument
  exact ⟨before, _, _, after, hsites, rfl, IsCollected.of_ok hsites hresolve,
    tokens_sublist_spelled hjson hspells⟩

/-- **A call that is never closed is reported and adds no classes exactly when its argument cannot
be parsed.** Any other such call is collected without a warning. -/
theorem openCall_isReported_iff (hsites : callSites source.content name = before ++ site :: after)
    (hopen : site.terminated = false) :
    (IsReported name source before site after
        ↔ ∃ cause, Script.parseExpression (argumentText site.text name) = .error cause)
      ∧ ((∃ classes, IsCollected name source before site classes after)
        ↔ ∃ expr, Script.parseExpression (argumentText site.text name) = .ok expr) := by
  cases hparse : Script.parseExpression (argumentText site.text name) with
  | error cause =>
      have hreported := IsReported.of_error hsites hopen (resolveCall_eq_error.2 hparse)
      refine ⟨⟨fun _ => ⟨cause, rfl⟩, fun _ => hreported⟩, ?_, ?_⟩
      · rintro ⟨classes, hcollected⟩
        exact absurd hcollected hreported.not_isCollected
      · rintro ⟨expr, hexpr⟩
        cases hexpr
  | ok expr =>
      have hresolve : resolveCall name site.text = .ok (resolveValue (reduce (firstOf expr))) := by
        rw [resolveCall, evaluateCall, hparse]
        rfl
      have hcollected := IsCollected.of_ok hsites hresolve
      refine ⟨⟨?_, ?_⟩, fun _ => ⟨expr, rfl⟩, fun _ => ⟨_, hcollected⟩⟩
      · intro hreported
        exact absurd hcollected hreported.not_isCollected
      · rintro ⟨cause, hcause⟩
        cases hcause

/-- The parenthesis at the end closes the inner call, whose class is collected. The outer call runs to
the end of the text and is reported. -/
theorem openCall_isReported_nested :
    let text := "tc(tc(\x7b\"md\":\x7b\"static\":\"p\"\x7d\x7d)"
    let outer : CallSite := ⟨text, 1, 1, false⟩
    let inner : CallSite := ⟨"tc(\x7b\"md\":\x7b\"static\":\"p\"\x7d\x7d)", 1, 4, true⟩
    callSites text "tc" = [] ++ outer :: [inner]
      ∧ IsReported "tc" ⟨"a.js", text⟩ [] outer [inner] := by
  intro text outer inner
  have hsites : callSites text "tc" = [] ++ outer :: [inner] := by decide +kernel
  have hresolve : resolveCall "tc" text = .error (.expected "," "<eof>") := by decide +kernel
  exact ⟨hsites, (openCall_isReported_iff hsites rfl).1.2 ⟨_, resolveCall_eq_error.1 hresolve⟩⟩

/-- The text ends right behind the argument of its only call. -/
theorem open_call_not_reported :
    let text := "tc(\x7b\"base\":\x7b\"static\":\"flex\"\x7d\x7d"
    let site : CallSite := ⟨text, 1, 1, false⟩
    callSites text "tc" = [site]
      ∧ extractFile "tc" ⟨"a.js", text⟩ = ⟨["flex"], 1, []⟩
      ∧ ¬IsReported "tc" ⟨"a.js", text⟩ [] site [] := by
  intro text site
  have hfile : extractFile "tc" ⟨"a.js", text⟩ = ⟨["flex"], 1, []⟩ := by decide +kernel
  refine ⟨by decide +kernel, hfile, ?_⟩
  intro hreported
  have hclasses := hreported.omitted
  rw [hfile] at hclasses
  exact absurd hclasses (List.cons_ne_nil _ _)

end UtilityClasses
