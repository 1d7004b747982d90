import Mathlib.Algebra.BigOperators.Group.List.Basic
import Mathlib.Algebra.GroupWithZero.Nat
import Mathlib.Data.List.Nodup
import Mathlib.Data.List.Perm.Basic
import UtilityClasses.Proofs.Collected

/-!
# Extraction is a union

What is found in several texts is found in each of them by itself: the classes of the first texts
come first, those of the others follow in their order unless they are known, and counts and warnings
add up. So the order of the texts changes nothing but the order of what is found, and a text that was
read already adds no class.
-/

namespace UtilityClasses

open Text

/-! ### Words put into a set -/

namespace ClassSet

variable {set : ClassSet} {token : String}

def insertWords (set : ClassSet) (words : List String) : ClassSet :=
  words.foldl (fun grown token => (grown.insert token).2) set

theorem tokens_insert (set : ClassSet) (token : String) :
    (set.insert token).2.tokens
      = if token = "" ∨ token ∈ set.tokens then set.tokens else set.tokens ++ [token] := by
  have hknown : (token.isEmpty || set.contains token) = true ↔ token = "" ∨ token ∈ set.tokens := by
    rw [Bool.or_eq_true, String.isEmpty_iff, contains, List.contains_iff_mem]
  rw [insert]
  by_cases hskip : token = "" ∨ token ∈ set.tokens
  · rw [if_pos hskip, if_pos (hknown.2 hskip)]
  · rw [if_neg hskip, if_neg (mt hknown.1 hskip)]

theorem nodup_insert (hnodup : set.tokens.Nodup) (token : String) :
    (set.insert token).2.tokens.Nodup := by
  rw [tokens_insert]
  split
  · exact hnodup
  · next hnew =>
    rw [not_or] at hnew
    exact List.concat_eq_append ▸ hnodup.concat hnew.2

theorem nodup_insertWords (hnodup : set.tokens.Nodup) (words : List String) :
    (set.insertWords words).tokens.Nodup := by
  induction words generalizing set with
  | nil => exact hnodup
  | cons word rest ih => exact ih (nodup_insert hnodup word)

/-- **What words add to a set** is what they make by themselves, without what is known. -/
theorem tokens_insertWords (set : ClassSet) (words : List String) :
    (set.insertWords words).tokens
      = set.tokens ++ (empty.insertWords words).tokens.filter fun token => token ∉ set.tokens := by
  induction words generalizing set with
  | nil => exact (List.append_nil _).symm
  | cons word rest ih =>
      have hset : (set.insertWords (word :: rest)).tokens
          = (set.insert word).2.tokens ++ (empty.insertWords rest).tokens.filter
              fun token => token ∉ (set.insert word).2.tokens := ih _
      have hempty : (empty.insertWords (word :: rest)).tokens
          = (empty.insert word).2.tokens ++ (empty.insertWords rest).tokens.filter
              fun token => token ∉ (empty.insert word).2.tokens := ih _
      rw [hset, hempty, tokens_insert, tokens_insert]
      by_cases hblank : word = ""
      · simp [hblank, empty]
      · by_cases hknown : word ∈ set.tokens
        · -- The word is left out of what the rest adds, but it would be left out anyway.
          have hrest : ∀ token, (token ∉ set.tokens ∧ token ∉ [word]) ↔ token ∉ set.tokens := by
            intro token
            refine and_iff_left_of_imp fun hnew hword => hnew ?_
            rwa [List.mem_singleton.1 hword]
          have hnone : [word].filter (fun token => token ∉ set.tokens) = [] := by
            simp [hknown]
          rw [if_pos (Or.inr hknown), if_neg (by simp [hblank, empty]), empty, List.nil_append,
            List.filter_append, hnone, List.nil_append, List.filter_filter]
          simp only [← Bool.decide_and, hrest]
        · have hadd : [word].filter (fun token => token ∉ set.tokens) = [word] := by
            simp [hknown]
          rw [if_neg (by simp [hblank, hknown]), if_neg (by simp [hblank, empty]), empty,
            List.nil_append, List.filter_append, hadd, List.filter_filter, List.append_assoc]
          simp only [← Bool.decide_and, List.mem_append, not_or]

theorem foldl_insertAll (set : ClassSet) (texts : List String) :
    texts.foldl insertAll set = set.insertWords (texts.flatMap wordsOf) := by
  rw [insertWords, List.foldl_flatMap]
  rfl

end ClassSet

/-! ### Files put into an extraction -/

def FileExtraction.words (file : FileExtraction) : List String := file.classes.flatMap wordsOf

namespace Extraction

theorem classes_foldl_add (extraction : Extraction) (files : List FileExtraction) :
    (files.foldl add extraction).classes
      = extraction.classes.insertWords (files.flatMap FileExtraction.words) := by
  induction files generalizing extraction with
  | nil => rfl
  | cons file rest ih =>
      calc ((file :: rest).foldl add extraction).classes
          = (extraction.add file).classes.insertWords (rest.flatMap FileExtraction.words) := ih _
        _ = (extraction.classes.insertWords file.words).insertWords
              (rest.flatMap FileExtraction.words) := by
            rw [add, ClassSet.foldl_insertAll]
            rfl
        _ = extraction.classes.insertWords ((file :: rest).flatMap FileExtraction.words) := by
            rw [List.flatMap_cons]
            exact List.foldl_append.symm

theorem fileCount_foldl_add (extraction : Extraction) (files : List FileExtraction) :
    (files.foldl add extraction).fileCount = extraction.fileCount + files.length := by
  induction files generalizing extraction with
  | nil => rfl
  | cons file rest ih =>
      calc ((file :: rest).foldl add extraction).fileCount
          = (extraction.add file).fileCount + rest.length := ih _
        _ = extraction.fileCount + 1 + rest.length := rfl
        _ = extraction.fileCount + (file :: rest).length := by
            rw [List.length_cons]
            omega

theorem callCount_foldl_add (extraction : Extraction) (files : List FileExtraction) :
    (files.foldl add extraction).callCount
      = extraction.callCount + (files.map FileExtraction.callCount).sum := by
  induction files generalizing extraction with
  | nil => rfl
  | cons file rest ih =>
      calc ((file :: rest).foldl add extraction).callCount
          = (extraction.add file).callCount + (rest.map FileExtraction.callCount).sum := ih _
        _ = extraction.callCount + file.callCount + (rest.map FileExtraction.callCount).sum := rfl
        _ = extraction.callCount + ((file :: rest).map FileExtraction.callCount).sum := by
            rw [List.map_cons, List.sum_cons, Nat.add_assoc]

theorem warnings_foldl_add (extraction : Extraction) (files : List FileExtraction) :
    (files.foldl add extraction).warnings
      = extraction.warnings ++ files.flatMap FileExtraction.warnings := by
  induction files generalizing extraction with
  | nil => exact (List.append_nil _).symm
  | cons file rest ih =>
      calc ((file :: rest).foldl add extraction).warnings
          = (extraction.add file).warnings ++ rest.flatMap FileExtraction.warnings := ih _
        _ = extraction.warnings ++ file.warnings ++ rest.flatMap FileExtraction.warnings := rfl
        _ = extraction.warnings ++ (file :: rest).flatMap FileExtraction.warnings := by
            rw [List.flatMap_cons, List.append_assoc]

/-! ### Relations between extractions -/

/-- The whole of two extractions. Classes that the first one knows are not repeated. -/
structure IsJoin (whole first second : Extraction) : Prop where
  tokens : whole.classes.tokens = first.classes.tokens
    ++ second.classes.tokens.filter fun token => token ∉ first.classes.tokens
  fileCount : whole.fileCount = first.fileCount + second.fileCount
  callCount : whole.callCount = first.callCount + second.callCount
  warnings : whole.warnings = first.warnings ++ second.warnings

/-- Every text is counted, and every call in it: a call has a class string or a warning. -/
structure Accounts (extraction : Extraction) (name : String) (sources : List SourceText) :
    Prop where
  files : extraction.fileCount = sources.length
  calls : extraction.callCount
    = (sources.map fun source => (Source.callSites source.content name).length).sum
  outcomes : extraction.callCount
    = (sources.map fun source => (extractFile name source).classes.length).sum
      + extraction.warnings.length

/-- Two extractions that found the same things. -/
structure FoundSame (first second : Extraction) : Prop where
  tokens : ∀ token, token ∈ first.classes.tokens ↔ token ∈ second.classes.tokens
  size : first.classes.size = second.classes.size
  fileCount : first.fileCount = second.fileCount
  callCount : first.callCount = second.callCount
  warnings : first.warnings.Perm second.warnings

end Extraction

/-! ### Extraction from several texts -/

open Extraction

variable {name : String} {sources others : List SourceText}

/-- The words of the class strings of all calls, as they are found. -/
def foundWords (name : String) (sources : List SourceText) : List String :=
  sources.flatMap fun source => (extractFile name source).words

theorem classes_extract (name : String) (sources : List SourceText) :
    (extract name sources).classes = ClassSet.empty.insertWords (foundWords name sources) := by
  rw [extract, classes_foldl_add, List.flatMap_map]
  rfl

theorem fileCount_extract (name : String) (sources : List SourceText) :
    (extract name sources).fileCount = sources.length := by
  rw [extract, fileCount_foldl_add, List.length_map]
  exact Nat.zero_add _

theorem callCount_extract (name : String) (sources : List SourceText) :
    (extract name sources).callCount
      = (sources.map fun source => (extractFile name source).callCount).sum := by
  rw [extract, callCount_foldl_add, List.map_map]
  exact Nat.zero_add _

theorem warnings_extract (name : String) (sources : List SourceText) :
    (extract name sources).warnings
      = sources.flatMap fun source => (extractFile name source).warnings := by
  rw [extract, warnings_foldl_add, List.flatMap_map]
  exact List.nil_append _

theorem tokens_nodup_extract (name : String) (sources : List SourceText) :
    (extract name sources).classes.tokens.Nodup := by
  rw [classes_extract]
  exact ClassSet.nodup_insertWords List.nodup_nil _

theorem extract_isJoin (name : String) (sources others : List SourceText) :
    IsJoin (extract name (sources ++ others)) (extract name sources) (extract name others) where
  tokens := by
    have hwords : foundWords name (sources ++ others)
        = foundWords name sources ++ foundWords name others := List.flatMap_append
    have hwhole : (extract name (sources ++ others)).classes
        = (extract name sources).classes.insertWords (foundWords name others) := by
      rw [classes_extract, classes_extract, hwords]
      exact List.foldl_append
    rw [hwhole, ClassSet.tokens_insertWords, ← classes_extract]
  fileCount := by
    rw [fileCount_extract, fileCount_extract, fileCount_extract, List.length_append]
  callCount := by
    rw [callCount_extract, callCount_extract, callCount_extract, List.map_append, List.sum_append]
  warnings := by
    rw [warnings_extract, warnings_extract, warnings_extract, List.flatMap_append]

/-- Every outcome is a success or a failure. -/
theorem length_successes_add_failures {ε α : Type} (outcomes : List (Except ε α)) :
    (successes outcomes).length + (failures outcomes).length = outcomes.length := by
  induction outcomes with
  | nil => rfl
  | cons outcome rest ih =>
      simp only [successes, failures, List.filterMap_cons, List.length_cons] at ih ⊢
      cases outcome with
      | ok value =>
          simp only [Except.toOption, List.length_cons]
          omega
      | error cause =>
          simp only [Except.toOption, List.length_cons]
          omega

theorem callCount_extractFile (name : String) (source : SourceText) :
    (extractFile name source).callCount = (Source.callSites source.content name).length :=
  List.length_map _

theorem callCount_extractFile_eq (name : String) (source : SourceText) :
    (extractFile name source).callCount
      = (extractFile name source).classes.length + (extractFile name source).warnings.length :=
  (length_successes_add_failures _).symm

theorem extract_accounts (name : String) (sources : List SourceText) :
    Accounts (extract name sources) name sources where
  files := fileCount_extract name sources
  calls := by
    simp only [callCount_extract, callCount_extractFile]
  outcomes := by
    rw [callCount_extract, warnings_extract, List.length_flatMap, ← List.sum_map_add]
    simp only [callCount_extractFile_eq]

theorem extract_perm (hperm : sources.Perm others) :
    FoundSame (extract name sources) (extract name others) := by
  have hmem (token : String) : token ∈ (extract name sources).classes.tokens
      ↔ token ∈ (extract name others).classes.tokens := by
    rw [mem_extract, mem_extract]
    exact exists_congr fun source => and_congr_left' hperm.mem_iff
  have htokens : (extract name sources).classes.tokens.Perm (extract name others).classes.tokens :=
    (List.perm_ext_iff_of_nodup (tokens_nodup_extract name sources)
      (tokens_nodup_extract name others)).2 hmem
  refine ⟨hmem, htokens.length_eq, ?_, ?_, ?_⟩
  · rw [fileCount_extract, fileCount_extract, hperm.length_eq]
  · rw [callCount_extract, callCount_extract]
    exact (hperm.map _).sum_nat
  · rw [warnings_extract, warnings_extract]
    exact hperm.flatMap_right _

/-- A text whose content was read already adds no class, wherever it is from. -/
theorem render_extract_again {source : SourceText} (hsource : source ∈ sources) (path : String) :
    (extract name (sources ++ [⟨path, source.content⟩])).classes.render
      = (extract name sources).classes.render := by
  have hknown : ∀ token ∈ (extract name [⟨path, source.content⟩]).classes.tokens,
      token ∈ (extract name sources).classes.tokens := by
    intro token htoken
    obtain ⟨again, hagain, hcall⟩ := mem_extract.1 htoken
    obtain rfl := List.mem_singleton.1 hagain
    exact mem_extract.2 ⟨source, hsource, hcall⟩
  have hnone : (extract name [⟨path, source.content⟩]).classes.tokens.filter
      (fun token => token ∉ (extract name sources).classes.tokens) = [] := by
    rw [List.filter_eq_nil_iff]
    intro token htoken
    simpa using hknown token htoken
  rw [ClassSet.render, ClassSet.render, (extract_isJoin name sources _).tokens, hnone,
    List.append_nil]

/-- **Extraction is a union of what is found in each text**, with every call accounted for. It does
not depend on the order of the texts, nor on a text that is read twice. -/
theorem extract_union (name : String) (sources : List SourceText) :
    (∀ others, IsJoin (extract name (sources ++ others)) (extract name sources)
        (extract name others))
      ∧ Accounts (extract name sources) name sources
      ∧ (∀ others, sources.Perm others →
          FoundSame (extract name sources) (extract name others))
      ∧ ∀ source ∈ sources, ∀ path,
          (extract name (sources ++ [⟨path, source.content⟩])).classes.render
            = (extract name sources).classes.render :=
  ⟨extract_isJoin name sources, extract_accounts name sources, fun _ => extract_perm,
    fun _ => render_extract_again⟩

/-- The first text has a call that cannot be evaluated; the texts share a class. -/
theorem extract_union_shared_class :
    let upper := "tc(\x7bbase:\x7bstatic:'p q'\x7d\x7d) tc(?)"
    let lower := "tc(\x7bmd:\x7bhover:'p'\x7d, base:\x7bstatic:'q r'\x7d\x7d)"
    let sources : List SourceText := [⟨"a.ts", upper⟩, ⟨"b.ts", lower⟩]
    extract "tc" sources
        = ⟨⟨["p", "q", "md:hover:p", "r"]⟩, 2, 3,
            [⟨"a.ts", 1, 27, .parseError, "tc(?)", "Expression expected"⟩]⟩
      ∧ FoundSame (extract "tc" sources) (extract "tc" [⟨"b.ts", lower⟩, ⟨"a.ts", upper⟩])
      ∧ (extract "tc" (sources ++ [⟨"c.ts", upper⟩])).classes.render = "p q md:hover:p r" := by
  intro upper lower sources
  have hfound : extract "tc" sources = ⟨⟨["p", "q", "md:hover:p", "r"]⟩, 2, 3,
      [⟨"a.ts", 1, 27, .parseError, "tc(?)", "Expression expected"⟩]⟩ := by
    decide +kernel
  obtain ⟨-, -, hperm, hagain⟩ := extract_union "tc" sources
  refine ⟨hfound, hperm _ (List.Perm.swap _ _ _), ?_⟩
  have hrender := hagain _ List.mem_cons_self "c.ts"
  rw [hfound] at hrender
  exact hrender

end UtilityClasses
