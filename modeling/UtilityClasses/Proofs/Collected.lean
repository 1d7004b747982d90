import UtilityClasses.Extraction
import UtilityClasses.Proofs.Words

/-!
# Every class of a call is collected

The class string of several texts holds the words of every class string that a call in one of them
has, and no others. A set of classes keeps its tokens one by one, so they are read back from its
text.
-/

namespace UtilityClasses

open Text

namespace ClassSet

variable {set : ClassSet} {token other : String}

theorem mem_insert : other ∈ (set.insert token).2.tokens
    ↔ other ∈ set.tokens ∨ (other = token ∧ token ≠ "") := by
  rw [insert]
  split
  · next hknown =>
    simp only [Bool.or_eq_true, String.isEmpty_iff, contains, List.contains_iff_mem] at hknown
    refine ⟨Or.inl, fun hother => hother.elim id ?_⟩
    rintro ⟨rfl, hne⟩
    exact hknown.resolve_left hne
  · next hnew =>
    simp only [Bool.or_eq_true, String.isEmpty_iff, not_or] at hnew
    rw [List.mem_append, List.mem_singleton]
    exact ⟨fun hother => hother.imp_right fun heq => ⟨heq, hnew.1⟩,
      fun hother => hother.imp_right And.left⟩

theorem mem_foldl_insert {tokens : List String} (hwords : ∀ token ∈ tokens, IsWord token) :
    other ∈ (tokens.foldl (fun grown token => (grown.insert token).2) set).tokens
      ↔ other ∈ set.tokens ∨ other ∈ tokens := by
  induction tokens generalizing set with
  | nil => simp
  | cons token rest ih =>
      have htoken : token ≠ "" := (hwords token (by simp)).1
      rw [List.foldl_cons, ih fun other hother => hwords other (List.mem_cons_of_mem _ hother),
        mem_insert, List.mem_cons]
      simp only [htoken, ne_eq, not_false_eq_true, and_true, or_assoc]

theorem mem_insertAll {classes : String} :
    other ∈ (set.insertAll classes).tokens ↔ other ∈ set.tokens ∨ other ∈ wordsOf classes :=
  mem_foldl_insert fun _ => isWord_of_mem_wordsOf

theorem mem_foldl_insertAll {texts : List String} :
    other ∈ (texts.foldl insertAll set).tokens
      ↔ other ∈ set.tokens ∨ ∃ text ∈ texts, other ∈ wordsOf text := by
  induction texts generalizing set with
  | nil => simp
  | cons text rest ih =>
      rw [List.foldl_cons, ih, mem_insertAll]
      simp only [List.mem_cons, exists_eq_or_imp, or_assoc]

end ClassSet

namespace Extraction

theorem mem_foldl_add {files : List FileExtraction} {extraction : Extraction} {token : String} :
    token ∈ (files.foldl add extraction).classes.tokens
      ↔ token ∈ extraction.classes.tokens
        ∨ ∃ file ∈ files, ∃ classes ∈ file.classes, token ∈ wordsOf classes := by
  induction files generalizing extraction with
  | nil => simp
  | cons file rest ih =>
      rw [List.foldl_cons, ih, add, ClassSet.mem_foldl_insertAll]
      simp only [List.mem_cons, exists_eq_or_imp, or_assoc]

end Extraction

theorem mem_successes {ε α : Type} {outcomes : List (Except ε α)} {value : α} :
    value ∈ successes outcomes ↔ .ok value ∈ outcomes := by
  rw [successes, List.mem_filterMap]
  constructor
  · rintro ⟨outcome, hmem, hvalue⟩
    cases outcome with
    | ok found =>
      rw [← Option.some.inj hvalue]
      exact hmem
    | error cause => exact absurd hvalue (by simp [Except.toOption])
  · exact fun hmem => ⟨_, hmem, rfl⟩

theorem mapError_eq_ok {ε ζ α : Type} {change : ε → ζ} {outcome : Except ε α} {value : α} :
    outcome.mapError change = .ok value ↔ outcome = .ok value := by
  cases outcome with
  | ok found =>
      exact ⟨fun heq => congrArg _ (Except.ok.inj heq), fun heq => congrArg _ (Except.ok.inj heq)⟩
  | error cause => exact ⟨nofun, nofun⟩

theorem mem_extractFile {name : String} {source : SourceText} {classes : String} :
    classes ∈ (extractFile name source).classes
      ↔ ∃ site ∈ Source.callSites source.content name,
          resolveCall name site.text = .ok classes := by
  rw [extractFile, mem_successes, List.mem_map]
  exact exists_congr fun site => and_congr_right fun _ => mapError_eq_ok

/-- The tokens that are collected from texts are the words of the classes of their calls. -/
theorem mem_extract {name : String} {sources : List SourceText} {token : String} :
    token ∈ (extract name sources).classes.tokens
      ↔ ∃ source ∈ sources, ∃ site ∈ Source.callSites source.content name,
          ∃ classes, resolveCall name site.text = .ok classes ∧ token ∈ wordsOf classes := by
  have hempty : token ∉ Extraction.empty.classes.tokens := List.not_mem_nil
  rw [extract, Extraction.mem_foldl_add, or_iff_right hempty]
  constructor
  · rintro ⟨file, hfile, classes, hclasses, htoken⟩
    obtain ⟨source, hsource, rfl⟩ := List.mem_map.1 hfile
    obtain ⟨site, hsite, hresolve⟩ := mem_extractFile.1 hclasses
    exact ⟨source, hsource, site, hsite, classes, hresolve, htoken⟩
  · rintro ⟨source, hsource, site, hsite, classes, hresolve, htoken⟩
    exact ⟨_, List.mem_map_of_mem hsource, classes, mem_extractFile.2 ⟨site, hsite, hresolve⟩,
      htoken⟩

theorem isWord_of_mem_extract {name : String} {sources : List SourceText} {token : String}
    (htoken : token ∈ (extract name sources).classes.tokens) : IsWord token := by
  obtain ⟨_, _, _, _, _, _, hword⟩ := mem_extract.1 htoken
  exact isWord_of_mem_wordsOf hword

/-- **The class string of texts holds the words of the classes of their calls**, and no others. -/
theorem mem_classesOfSources {sources : List String} {token : String} :
    token ∈ wordsOf (classesOfSources sources)
      ↔ ∃ source ∈ sources, ∃ site ∈ Source.callSites source defaultFunctionName,
          ∃ classes, resolveCall defaultFunctionName site.text = .ok classes
            ∧ token ∈ wordsOf classes := by
  -- The text is split at blanks again, so no token may hold one.
  have hwords : ∀ other ∈ (extract defaultFunctionName
      (sources.map SourceText.anonymous)).classes.tokens, IsWord other :=
    fun _ => isWord_of_mem_extract
  rw [classesOfSources, ClassSet.render, wordsOf_joinWords hwords, mem_extract]
  constructor
  · rintro ⟨_, hmem, hcall⟩
    obtain ⟨source, hsource, rfl⟩ := List.mem_map.1 hmem
    exact ⟨source, hsource, hcall⟩
  · rintro ⟨source, hsource, hcall⟩
    exact ⟨_, List.mem_map_of_mem hsource, hcall⟩

end UtilityClasses
