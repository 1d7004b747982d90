import UtilityClasses.Proofs.Aggregation
import UtilityClasses.Proofs.OpenCalls

/-!
# Texts and lists of calls give the same classes

The classes of several texts are those of the list of their calls. A call that cannot be evaluated
may be left out of the list without a trace, and a list that is given several times over adds nothing
after the first time.
-/

namespace UtilityClasses

open Text

variable {set : ClassSet} {calls : List String}

/-! ### Words that are known already -/

namespace ClassSet

theorem mem_insertWords {token : String} {words : List String} (hwords : ∀ word ∈ words, IsWord word) :
    token ∈ (set.insertWords words).tokens ↔ token ∈ set.tokens ∨ token ∈ words :=
  mem_foldl_insert hwords

theorem insertWords_append (set : ClassSet) (first second : List String) :
    set.insertWords (first ++ second) = (set.insertWords first).insertWords second :=
  List.foldl_append

theorem insert_known {word : String} (hknown : word ∈ set.tokens) : (set.insert word).2 = set := by
  have htokens := tokens_insert set word
  rw [if_pos (Or.inr hknown)] at htokens
  exact congrArg ClassSet.mk htokens

theorem insertWords_known {words : List String} (hknown : ∀ word ∈ words, word ∈ set.tokens) :
    set.insertWords words = set := by
  induction words with
  | nil => rfl
  | cons word rest ih =>
      have hfirst := insert_known (hknown word List.mem_cons_self)
      have hrest := ih fun other hother => hknown other (List.mem_cons_of_mem _ hother)
      calc set.insertWords (word :: rest)
          = (set.insert word).2.insertWords rest := rfl
        _ = set.insertWords rest := by rw [hfirst]
        _ = set := hrest

/-- Words that are put in several times over are put in once. -/
theorem insertWords_repeated {words : List String} (hwords : ∀ word ∈ words, IsWord word)
    (set : ClassSet) (times : Nat) :
    set.insertWords (List.replicate (times + 1) words).flatten = set.insertWords words := by
  induction times with
  | zero => simp
  | succ times ih =>
      have hknown : ∀ word ∈ words, word ∈ (set.insertWords words).tokens := fun word hword =>
        (mem_insertWords hwords).2 (Or.inr hword)
      rw [List.replicate_succ', List.flatten_append, insertWords_append, ih, List.flatten_singleton,
        insertWords_known hknown]

end ClassSet

/-! ### The words of outcomes -/

/-- The words of a class string; none where there is an error instead. -/
def outcomeWords {ε : Type} : Except ε String → List String
  | .ok classes => wordsOf classes
  | .error _ => []

theorem flatMap_successes {ε : Type} (outcomes : List (Except ε String)) :
    (successes outcomes).flatMap wordsOf = outcomes.flatMap outcomeWords := by
  induction outcomes with
  | nil => rfl
  | cons outcome rest ih =>
      rw [successes] at ih ⊢
      rw [List.filterMap_cons, List.flatMap_cons, ← ih]
      cases outcome <;> rfl

theorem isWord_of_mem_outcomeWords {ε : Type} {outcome : Except ε String} {word : String}
    (hword : word ∈ outcomeWords outcome) : IsWord word := by
  cases outcome with
  | ok classes => exact isWord_of_mem_wordsOf hword
  | error cause => exact absurd hword List.not_mem_nil

theorem outcomeWords_failed {ε : Type} {outcome : Except ε String} (hfailed : ¬outcome.isOk = true) :
    outcomeWords outcome = [] := by
  cases outcome with
  | ok classes => exact absurd rfl hfailed
  | error cause => rfl

/-! ### The words of a list of calls -/

def evaluates (call : String) : Bool := (resolveCall defaultFunctionName call).isOk

def wordsOfCall (call : String) : List String :=
  outcomeWords (resolveCall defaultFunctionName call)

theorem flatMap_evaluates (calls : List String) :
    (calls.filter evaluates).flatMap wordsOfCall = calls.flatMap wordsOfCall := by
  induction calls with
  | nil => rfl
  | cons call rest ih =>
      rw [List.filter_cons, List.flatMap_cons, ← ih]
      split
      · rw [List.flatMap_cons]
      · next hfailed =>
        rw [evaluates] at hfailed
        rw [wordsOfCall, outcomeWords_failed hfailed, List.nil_append]

theorem classesOfCalls_eq (calls : List String) :
    classesOfCalls calls = (ClassSet.empty.insertWords (calls.flatMap wordsOfCall)).render := by
  rw [classesOfCalls, ClassSet.ofList, ClassSet.foldl_insertAll, flatMap_successes,
    List.flatMap_map]
  rfl

/-- The words that are found in a text are those of its calls. -/
theorem words_extractFile (source : SourceText) :
    (extractFile defaultFunctionName source).words
      = (Source.calls source.content defaultFunctionName).flatMap wordsOfCall := by
  rw [FileExtraction.words, classes_extractFile, classesOf, Source.calls, flatMap_successes,
    List.flatMap_map, List.flatMap_map]
  rfl

theorem classesOfSources_eq (sources : List String) :
    classesOfSources sources
      = classesOfCalls (sources.flatMap fun source => Source.calls source defaultFunctionName) := by
  rw [classesOfSources, classes_extract, foundWords, classesOfCalls_eq, List.flatMap_map,
    List.flatMap_assoc]
  simp only [words_extractFile, SourceText.anonymous]

theorem classesOfCalls_evaluates (calls : List String) :
    classesOfCalls (calls.filter evaluates) = classesOfCalls calls := by
  rw [classesOfCalls_eq, classesOfCalls_eq, flatMap_evaluates]

theorem classesOfCalls_repeated (calls : List String) (times : Nat) :
    classesOfCalls (List.replicate (times + 1) calls).flatten = classesOfCalls calls := by
  have hwords : ∀ word ∈ calls.flatMap wordsOfCall, IsWord word := by
    intro word hword
    obtain ⟨call, -, hmem⟩ := List.mem_flatMap.1 hword
    exact isWord_of_mem_outcomeWords hmem
  have hflatten : (List.replicate (times + 1) calls).flatten.flatMap wordsOfCall
      = (List.replicate (times + 1) (calls.flatMap wordsOfCall)).flatten := by
    rw [List.flatMap_def, List.map_flatten, List.flatten_flatten, List.map_replicate,
      List.map_replicate]
    rfl
  rw [classesOfCalls_eq, classesOfCalls_eq, hflatten, ClassSet.insertWords_repeated hwords]

/-- **The classes of texts are those of the list of their calls.** Calls that cannot be evaluated may
be left out of the list, and the list may be given any number of times. -/
theorem classesOfSources_eq_classesOfCalls (sources : List String) :
    classesOfSources sources
        = classesOfCalls (sources.flatMap fun source => Source.calls source defaultFunctionName)
      ∧ classesOfSources sources
        = classesOfCalls ((sources.flatMap fun source =>
            Source.calls source defaultFunctionName).filter evaluates)
      ∧ ∀ times, classesOfCalls (List.replicate (times + 1) (sources.flatMap fun source =>
          Source.calls source defaultFunctionName)).flatten = classesOfSources sources := by
  have hlist := classesOfSources_eq sources
  refine ⟨hlist, ?_, fun times => ?_⟩
  · rw [classesOfCalls_evaluates, hlist]
  · rw [classesOfCalls_repeated, hlist]

end UtilityClasses
