import UtilityClasses.Proofs.Meaning

/-!
# Entries that are null

A null under a key selects no class, so an object may as well be without the entry; a list selects
none whatever is in it. Only under `dark` a key counts whatever its value is: it tells the styles of
states from a class map. So deleting a null changes the classes exactly where it is the last key of
a state in a dark object, and the object is a map that selects classes once the key is gone.
-/

namespace UtilityClasses

open Json (Value Fields)

/-- A value and what is left of it without one of the nulls in its objects, wherever the object
stands. -/
inductive DropsNull : Value → Value → Prop where
  | here (before : Fields) (key : String) (after : Fields) :
      DropsNull (.object (before ++ (key, .null) :: after)) (.object (before ++ after))
  | inside (before : Fields) (key : String) {value rest : Value} (hdrops : DropsNull value rest)
      (after : Fields) :
      DropsNull (.object (before ++ (key, value) :: after))
        (.object (before ++ (key, rest) :: after))
  | item (before : List Value) {value rest : Value} (hdrops : DropsNull value rest)
      (after : List Value) :
      DropsNull (.list (before ++ value :: after)) (.list (before ++ rest :: after))

/-- Objects that differ in one entry, under a key of a kind. -/
inductive DiffersUnder (isKey : String → Prop) (differs : Value → Value → Prop) :
    Value → Value → Prop where
  | entry {before after : Fields} {key : String} {value rest : Value} (hkey : isKey key)
      (hdiffers : differs value rest) :
      DiffersUnder isKey differs (.object (before ++ (key, value) :: after))
        (.object (before ++ (key, rest) :: after))

/-- The key of a state goes, no other one is left, and what is left selects classes as a map. -/
inductive BecomesMap : Value → Value → Prop where
  | entry {before after : Fields} {key : String} (hkey : key ∈ stateKeys)
      (hplain : ¬∃ field ∈ before ++ after, field.1 ∈ stateKeys)
      (hselects : selectedWords (.object (before ++ after)) ≠ []) :
      BecomesMap (.object (before ++ (key, .null) :: after)) (.object (before ++ after))

def BundleBecomesMap : Value → Value → Prop := DiffersUnder (· = "dark") BecomesMap

/-- A dark object in the bundle of a breakpoint becomes a class map. -/
def DarkBecomesMap : Value → Value → Prop := DiffersUnder (· ∈ breakpointKeys) BundleBecomesMap

variable {value rest : Value}

/-! ### What a null adds -/

theorem DropsNull.switchesOff_eq (hdrops : DropsNull value rest) :
    switchesOff rest = switchesOff value := by
  cases hdrops <;> rfl

theorem DropsNull.selectedWords_eq (hdrops : DropsNull value rest) :
    selectedWords rest = selectedWords value := by
  cases hdrops with
  | here before key after => simp [selectedWords, switchesOff]
  | inside before key hdrops after => simp [selectedWords, hdrops.switchesOff_eq]
  | item => rfl

theorem DropsNull.markedWords_eq (hdrops : DropsNull value rest) (marks : String) :
    markedWords marks rest = markedWords marks value := by
  rw [markedWords, markedWords, hdrops.selectedWords_eq]

theorem exists_state_insert {before after : Fields} {key : String} (dropped : Value)
    (hkey : key ∉ stateKeys) :
    (∃ field ∈ before ++ (key, dropped) :: after, field.1 ∈ stateKeys)
      ↔ ∃ field ∈ before ++ after, field.1 ∈ stateKeys := by
  simp [or_and_right, exists_or, hkey]

theorem exists_state_replace {before after : Fields} {key : String} (old new : Value) :
    (∃ field ∈ before ++ (key, new) :: after, field.1 ∈ stateKeys)
      ↔ ∃ field ∈ before ++ (key, old) :: after, field.1 ∈ stateKeys := by
  simp [or_and_right, exists_or]

/-- A dark object whose only key of a state is null holds the styles of no state. -/
theorem darkMeaning_lastState {before after : Fields} {key : String} (hkey : key ∈ stateKeys)
    (hplain : ¬∃ field ∈ before ++ after, field.1 ∈ stateKeys) (marks : String) :
    darkMeaning marks (.object (before ++ (key, .null) :: after)) = [] := by
  have hnames : ∃ field ∈ before ++ (key, Value.null) :: after, field.1 ∈ stateKeys :=
    ⟨(key, .null), by simp, hkey⟩
  rw [darkMeaning, if_pos hnames, List.flatMap_eq_nil_iff]
  intro field hfield
  by_cases hstate : field.1 ∈ stateKeys
  · have hnull : field = (key, .null) := by
      by_contra hne
      have hother : field ∈ before ++ after := by
        simpa [hne] using hfield
      exact hplain ⟨field, hother, hstate⟩
    simp [hnull, markedWords, selectedWords]
  · exact if_neg hstate

/-- Deleting a null from a dark object keeps its classes, unless the object becomes a map. -/
theorem DropsNull.darkMeaning_eq (hdrops : DropsNull value rest) (marks : String) :
    darkMeaning marks rest = darkMeaning marks value ∨ BecomesMap value rest := by
  have hmap := hdrops.markedWords_eq marks
  cases hdrops with
  | here before key after =>
      by_cases hothers : ∃ field ∈ before ++ after, field.1 ∈ stateKeys
      · have hnames : ∃ field ∈ before ++ (key, Value.null) :: after, field.1 ∈ stateKeys := by
          obtain ⟨field, hfield, hstate⟩ := hothers
          exact ⟨field, by grind, hstate⟩
        rw [darkMeaning, darkMeaning, if_pos hothers, if_pos hnames]
        exact Or.inl (by simp [markedWords, selectedWords])
      · by_cases hkey : key ∈ stateKeys
        · by_cases hselects : selectedWords (.object (before ++ after)) = []
          · rw [darkMeaning_lastState hkey hothers, darkMeaning, if_neg hothers, markedWords,
              hselects]
            exact Or.inl rfl
          · exact Or.inr (.entry hkey hothers hselects)
        · have hwhole := mt (exists_state_insert .null hkey).1 hothers
          rw [darkMeaning, darkMeaning, if_neg hothers, if_neg hwhole]
          exact Or.inl hmap
  | @inside before key old new hdrops after =>
      rw [darkMeaning, darkMeaning]
      refine Or.inl (if_congr (exists_state_replace old new) ?_ hmap)
      simp only [List.flatMap_append, List.flatMap_cons, hdrops.markedWords_eq]
  | item => exact Or.inl hmap

theorem DropsNull.bundleMeaning_eq (hdrops : DropsNull value rest) (marks : String) :
    bundleMeaning marks rest = bundleMeaning marks value ∨ BundleBecomesMap value rest := by
  cases hdrops with
  | here before key after =>
      refine Or.inl ?_
      simp [bundleMeaning, darkMeaning, markedWords, selectedWords]
  | @inside before key old new hdrops after =>
      by_cases hdark : key = "dark"
      · refine (hdrops.darkMeaning_eq (marks ++ "dark:")).imp ?_ (.entry hdark)
        intro heq
        simp [bundleMeaning, hdark, heq]
      · refine Or.inl ?_
        simp [bundleMeaning, hdark, hdrops.markedWords_eq]
  | item => exact Or.inl rfl

theorem DropsNull.meaning_eq (hdrops : DropsNull value rest) :
    meaning rest = meaning value ∨ DarkBecomesMap value rest := by
  cases hdrops with
  | here before key after => exact Or.inl (by simp [meaning, bundleMeaning])
  | @inside before key old new hdrops after =>
      by_cases hkey : key ∈ breakpointKeys
      · refine (hdrops.bundleMeaning_eq (keyMark key)).imp ?_ (.entry hkey)
        intro heq
        simp [meaning, hkey, heq]
      · exact Or.inl (by simp [meaning, hkey])
  | item => exact Or.inl rfl

/-! ### What a map adds -/

/-- More classes, among them the old ones in their order. -/
def Gains (old new : List String) : Prop := old.Sublist new ∧ old ≠ new

theorem Gains.between {old new : List String} (hgains : Gains old new)
    (before after : List String) :
    Gains (before ++ (old ++ after)) (before ++ (new ++ after)) := by
  refine ⟨(hgains.1.append_right after).append_left before, ?_⟩
  intro heq
  exact hgains.2 (List.append_cancel_right (List.append_cancel_left heq))

/-- What is collected field by field gains where the entry that differs gains. -/
theorem gains_flatMap {before after : Fields} {key : String} {old new : Value}
    {collect : String × Value → List String}
    (hgains : Gains (collect (key, old)) (collect (key, new))) :
    Gains ((before ++ (key, old) :: after).flatMap collect)
      ((before ++ (key, new) :: after).flatMap collect) := by
  simp only [List.flatMap_append, List.flatMap_cons]
  exact hgains.between _ _

theorem BecomesMap.gains (hmap : BecomesMap value rest) (marks : String) :
    Gains (darkMeaning marks value) (darkMeaning marks rest) := by
  cases hmap with
  | entry hkey hplain hselects =>
      rw [darkMeaning_lastState hkey hplain, darkMeaning, if_neg hplain, markedWords]
      refine ⟨List.nil_sublist _, fun hempty => hselects ?_⟩
      exact List.map_eq_nil_iff.1 hempty.symm

theorem BundleBecomesMap.gains (hmap : BundleBecomesMap value rest) (marks : String) :
    Gains (bundleMeaning marks value) (bundleMeaning marks rest) := by
  cases hmap with
  | entry hdark hmap =>
      refine gains_flatMap ?_
      simp only [if_pos hdark]
      exact hmap.gains _

theorem DarkBecomesMap.gains (hmap : DarkBecomesMap value rest) :
    Gains (meaning value) (meaning rest) := by
  cases hmap with
  | entry hkey hmap =>
      refine gains_flatMap ?_
      simp only [if_pos hkey]
      exact hmap.gains _

/-! ### Deleting a null -/

theorem resolveValue_eq_iff (first second : Value) :
    resolveValue first = resolveValue second ↔ meaning first = meaning second := by
  constructor
  · intro heq
    rw [← wordsOf_resolveValue_eq_meaning, heq, wordsOf_resolveValue_eq_meaning]
  · intro heq
    rw [resolveValue, resolveValue, Descriptor.resolve, Descriptor.resolve, tokens_ofValue,
      tokens_ofValue, heq]

/-- **A null counts as absent**, at any depth and among any other entries, unless a dark object
becomes a class map without it. No class is ever lost. -/
theorem resolveValue_dropNull (hdrops : DropsNull value rest) :
    (resolveValue rest = resolveValue value ↔ ¬DarkBecomesMap value rest)
      ∧ (Text.wordsOf (resolveValue value)).Sublist (Text.wordsOf (resolveValue rest)) := by
  rw [resolveValue_eq_iff, wordsOf_resolveValue_eq_meaning, wordsOf_resolveValue_eq_meaning]
  by_cases hmap : DarkBecomesMap value rest
  · have hgains := hmap.gains
    exact ⟨iff_of_false hgains.2.symm (not_not_intro hmap), hgains.1⟩
  · have heq := hdrops.meaning_eq.resolve_right hmap
    exact ⟨iff_of_true heq hmap, heq ▸ List.Sublist.refl _⟩

/-- The null is the key of a state, and another one is left in the dark object. -/
theorem resolveValue_dropNull_among_states :
    let states : Fields := [("hover", .text "b"), ("c", .boolean true)]
    let styled (dark : Fields) : Value :=
      .object [("md", .object [("static", .text "a"), ("dark", .object dark)])]
    DropsNull (styled (states ++ [("focus", .null)])) (styled states)
      ∧ resolveValue (styled states) = resolveValue (styled (states ++ [("focus", .null)])) := by
  intro states styled
  have hdrops : DropsNull (styled (states ++ [("focus", .null)])) (styled states) :=
    .inside [] "md" (.inside [("static", .text "a")] "dark" (.here states "focus" []) []) []
  refine ⟨hdrops, (resolveValue_dropNull hdrops).1.2 fun hmap => ?_⟩
  exact absurd hmap.gains.2 (by decide)

/-- The null is the only key of a state in the dark object, so the class beside it appears when the
null is deleted. -/
theorem last_state_hides_map :
    let classes : Fields := [("a", .boolean true)]
    let styled (dark : Fields) : Value := .object [("base", .object [("dark", .object dark)])]
    DropsNull (styled (("hover", .null) :: classes)) (styled classes)
      ∧ resolveValue (styled (("hover", .null) :: classes)) = ""
      ∧ resolveValue (styled classes) = "dark:a" := by
  intro classes styled
  have hdrops : DropsNull (styled (("hover", .null) :: classes)) (styled classes) :=
    .inside [] "base" (.inside [] "dark" (.here [] "hover" classes) []) []
  exact ⟨hdrops, by decide, by decide⟩

end UtilityClasses
