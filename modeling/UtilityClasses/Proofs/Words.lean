import UtilityClasses.Descriptor.OfValue

/-!
# Words joined on a line are read back

A class string is a list of words joined by single spaces. Splitting it gives the list back, because
every token of a descriptor is a word: marks and classes hold no blanks, and no class is empty.
-/

namespace UtilityClasses.Text

/-- A text that is one word by itself. -/
def IsWord (token : String) : Prop := token ≠ "" ∧ ∀ char ∈ token.toList, isBlank char = false

theorem wordsFrom_append {word letters rest : List Char}
    (hletters : ∀ char ∈ letters, isBlank char = false) :
    wordsFrom word (letters ++ rest) = wordsFrom (letters.reverse ++ word) rest := by
  induction letters generalizing word with
  | nil => rfl
  | cons char letters ih =>
      have hchar : isBlank char = false := hletters char (by simp)
      rw [List.cons_append, wordsFrom, hchar, if_neg (by simp),
        ih fun other hother => hletters other (List.mem_cons_of_mem _ hother)]
      simp

/-- A word that a blank or the end follows is the first word. -/
theorem words_append {letters : List Char} (hne : letters ≠ [])
    (hletters : ∀ char ∈ letters, isBlank char = false) (rest : List Char) :
    words (letters ++ ' ' :: rest) = letters :: words rest := by
  have hblank : isBlank ' ' = true := by decide
  rw [words, wordsFrom_append hletters, wordsFrom, if_pos hblank, closeWord,
    if_neg (by simpa using hne)]
  simp [words]

theorem words_self {letters : List Char} (hne : letters ≠ [])
    (hletters : ∀ char ∈ letters, isBlank char = false) : words letters = [letters] := by
  have happend : wordsFrom [] (letters ++ []) = wordsFrom (letters.reverse ++ []) [] :=
    wordsFrom_append hletters
  rw [words, ← List.append_nil letters, happend, wordsFrom, closeWord, if_neg (by simpa using hne)]
  simp

/-- **Joined words are read back.** -/
theorem wordsOf_joinWords {tokens : List String} (htokens : ∀ token ∈ tokens, IsWord token) :
    wordsOf (joinWords tokens) = tokens := by
  rw [wordsOf, joinWords, String.toList_intercalate]
  induction tokens with
  | nil => rfl
  | cons token rest ih =>
      obtain ⟨hne, hletters⟩ := htokens token (by simp)
      have hchars : token.toList ≠ [] := by simpa using hne
      have hrest := ih fun other hother => htokens other (List.mem_cons_of_mem _ hother)
      cases rest with
      | nil => simp [words_self hchars hletters]
      | cons next rest =>
          rw [List.map_cons, List.map_cons, List.intercalate_cons_cons, List.append_assoc]
          change (words (token.toList ++ ' ' :: _)).map String.ofList = _
          rw [words_append hchars hletters, List.map_cons, String.ofList_toList]
          exact congrArg _ hrest

/-- What stands in joined words stands in one of them, single spaces apart. -/
theorem mem_joinWords {tokens : List String} {char : Char} (hchar : char ∈ (joinWords tokens).toList) :
    char = ' ' ∨ ∃ token ∈ tokens, char ∈ token.toList := by
  rw [joinWords, String.toList_intercalate] at hchar
  induction tokens with
  | nil => exact absurd hchar List.not_mem_nil
  | cons token rest ih =>
      cases rest with
      | nil => exact Or.inr ⟨token, by simp, by simpa using hchar⟩
      | cons next rest =>
          rw [List.map_cons, List.map_cons, List.intercalate_cons_cons, List.append_assoc,
            List.mem_append, List.mem_append] at hchar
          rcases hchar with hchar | hchar | hchar
          · exact Or.inr ⟨token, by simp, hchar⟩
          · exact Or.inl (List.mem_singleton.1 hchar)
          · refine (ih hchar).imp_right ?_
            rintro ⟨other, hother, hmem⟩
            exact ⟨other, List.mem_cons_of_mem _ hother, hmem⟩

theorem closeWord_forall {word : List Char} {following : List (List Char)}
    (hword : ∀ char ∈ word, isBlank char = false)
    (hfollowing : ∀ letters ∈ following,
      letters ≠ [] ∧ ∀ char ∈ letters, isBlank char = false) :
    ∀ letters ∈ closeWord word following,
      letters ≠ [] ∧ ∀ char ∈ letters, isBlank char = false := by
  intro letters hmem
  rw [closeWord] at hmem
  split at hmem
  · exact hfollowing letters hmem
  · next hne =>
    rcases List.mem_cons.1 hmem with rfl | hmem
    · exact ⟨by simpa using hne, fun char hchar => hword char (List.mem_reverse.1 hchar)⟩
    · exact hfollowing letters hmem

theorem wordsFrom_forall {word text : List Char} (hword : ∀ char ∈ word, isBlank char = false) :
    ∀ letters ∈ wordsFrom word text, letters ≠ [] ∧ ∀ char ∈ letters, isBlank char = false := by
  induction text generalizing word with
  | nil => exact closeWord_forall hword (by simp)
  | cons char rest ih =>
      rw [wordsFrom]
      split
      · exact closeWord_forall hword (ih (by simp))
      · next hchar =>
        refine ih fun other hother => ?_
        rcases List.mem_cons.1 hother with rfl | hother
        · simpa using hchar
        · exact hword other hother

theorem isWord_of_mem_wordsOf {text token : String} (htoken : token ∈ wordsOf text) :
    IsWord token := by
  obtain ⟨letters, hletters, rfl⟩ := List.mem_map.1 htoken
  obtain ⟨hne, hblank⟩ := wordsFrom_forall (by simp) letters hletters
  exact ⟨by simpa using hne, by simpa using hblank⟩

theorem IsWord.mark {mark token : String} (hmark : ∀ char ∈ mark.toList, isBlank char = false)
    (htoken : IsWord token) : IsWord (mark ++ token) := by
  refine ⟨?_, ?_⟩
  · intro hempty
    have hchars : mark.toList ++ token.toList = [] := by
      rw [← String.toList_append, hempty, String.toList_empty]
    exact htoken.1 (String.toList_eq_nil_iff.1 (List.append_eq_nil_iff.1 hchars).2)
  · intro char hchar
    rw [String.toList_append, List.mem_append] at hchar
    exact hchar.elim (hmark char) (htoken.2 char)

end UtilityClasses.Text

namespace UtilityClasses

open Text

/-! ### The tokens of a descriptor -/

theorem forall_noBlank {text : String} (htext : text.toList.any isBlank = false) :
    ∀ char ∈ text.toList, isBlank char = false := by
  simpa using htext

theorem Breakpoint.mark_noBlank (breakpoint : Breakpoint) :
    ∀ char ∈ breakpoint.mark.toList, isBlank char = false := by
  apply forall_noBlank
  cases breakpoint <;> decide

theorem State.mark_noBlank (state : State) :
    ∀ char ∈ state.mark.toList, isBlank char = false := by
  apply forall_noBlank
  cases state <;> decide

theorem darkMark_noBlank : ∀ char ∈ darkMark.toList, isBlank char = false :=
  forall_noBlank (by decide)

theorem Style.isWord_of_mem_tokens {style : Style} {token : String}
    (htoken : token ∈ style.tokens) : IsWord token := by
  cases style with
  | classes text => exact isWord_of_mem_wordsOf htoken
  | conditional entries =>
      obtain ⟨entry, _, hword⟩ := List.mem_flatMap.1 htoken
      exact isWord_of_mem_wordsOf hword

theorem Style.isWord_of_mem_marked {style : Style} {marks token : String}
    (hmarks : ∀ char ∈ marks.toList, isBlank char = false) (htoken : token ∈ style.marked marks) :
    IsWord token := by
  obtain ⟨word, hword, rfl⟩ := List.mem_map.1 htoken
  exact (Style.isWord_of_mem_tokens hword).mark hmarks

theorem append_noBlank {left right : String} (hleft : ∀ char ∈ left.toList, isBlank char = false)
    (hright : ∀ char ∈ right.toList, isBlank char = false) :
    ∀ char ∈ (left ++ right).toList, isBlank char = false := by
  intro char hchar
  rw [String.toList_append, List.mem_append] at hchar
  exact hchar.elim (hleft char) (hright char)

theorem Variant.isWord_of_mem_tokens {variant : Variant} {breakpoint : Breakpoint} {token : String}
    (htoken : token ∈ variant.tokens breakpoint) : IsWord token := by
  have hdark := append_noBlank breakpoint.mark_noBlank darkMark_noBlank
  cases variant with
  | state condition style =>
      exact Style.isWord_of_mem_marked
        (append_noBlank breakpoint.mark_noBlank condition.mark_noBlank) htoken
  | dark dark =>
      cases dark with
      | style style => exact Style.isWord_of_mem_marked hdark htoken
      | states styles =>
          obtain ⟨⟨condition, style⟩, _, hmarked⟩ := List.mem_flatMap.1 htoken
          exact Style.isWord_of_mem_marked (append_noBlank hdark condition.mark_noBlank) hmarked

/-- The class string of a descriptor lists its tokens. -/
theorem Descriptor.wordsOf_resolve (descriptor : Descriptor) :
    wordsOf descriptor.resolve = descriptor.tokens := by
  refine wordsOf_joinWords fun token htoken => ?_
  obtain ⟨⟨breakpoint, styles⟩, _, hvariants⟩ := List.mem_flatMap.1 htoken
  obtain ⟨variant, _, hvariant⟩ := List.mem_flatMap.1 hvariants
  exact Variant.isWord_of_mem_tokens hvariant

theorem wordsOf_resolveValue (value : Json.Value) :
    wordsOf (resolveValue value) = (Descriptor.ofValue value).tokens :=
  Descriptor.wordsOf_resolve _

end UtilityClasses
