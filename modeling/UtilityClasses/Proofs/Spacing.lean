import Mathlib.Data.List.Chain
import UtilityClasses.Proofs.Words

/-!
# Words with single spaces between them

A text may consist of words that single spaces keep apart, with no other blank in it. Words that are
joined on a line make such a text.
-/

namespace UtilityClasses.Text

/-- Words with single spaces between them and nothing around them. -/
structure IsSingleSpaced (text : List Char) : Prop where
  begins : ∀ char ∈ text.head?, isBlank char = false
  ends : ∀ char ∈ text.getLast?, isBlank char = false
  spaces : ∀ char ∈ text, isBlank char = true → char = ' '
  apart : text.IsChain fun left right => isBlank left = true → isBlank right = false

theorem isSingleSpaced_nil : IsSingleSpaced [] where
  begins := by simp
  ends := by simp
  spaces := by simp
  apart := .nil

theorem isSingleSpaced_word {letters : List Char}
    (hletters : ∀ char ∈ letters, isBlank char = false) : IsSingleSpaced letters where
  begins := fun char hchar => hletters char (List.mem_of_mem_head? hchar)
  ends := fun char hchar => hletters char (List.mem_of_mem_getLast? hchar)
  spaces := by
    intro char hchar hblank
    rw [hletters char hchar] at hblank
    exact absurd hblank Bool.false_ne_true
  apart := by
    rw [List.isChain_iff_getElem]
    intro index hindex _
    exact hletters _ (List.getElem_mem _)

theorem IsSingleSpaced.behind {letters rest : List Char} (hne : letters ≠ [])
    (hletters : ∀ char ∈ letters, isBlank char = false) (hrest : rest ≠ [])
    (hspaced : IsSingleSpaced rest) : IsSingleSpaced (letters ++ ' ' :: rest) where
  begins := by
    intro char hchar
    rw [List.head?_append_of_ne_nil _ hne] at hchar
    exact hletters char (List.mem_of_mem_head? hchar)
  ends := by
    intro char hchar
    rw [List.getLast?_append_of_ne_nil _ (List.cons_ne_nil _ _), List.getLast?_cons_of_ne_nil hrest]
      at hchar
    exact hspaced.ends char hchar
  spaces := by
    intro char hchar hblank
    rw [List.mem_append, List.mem_cons] at hchar
    rcases hchar with hchar | rfl | hchar
    · rw [hletters char hchar] at hblank
      exact absurd hblank Bool.false_ne_true
    · rfl
    · exact hspaced.spaces char hchar hblank
  apart := by
    rw [List.isChain_append]
    refine ⟨(isSingleSpaced_word hletters).apart, ?_, ?_⟩
    · rw [List.isChain_cons]
      exact ⟨fun char hchar _ => hspaced.begins char hchar, hspaced.apart⟩
    · intro last hlast _ _ hblank
      rw [hletters last (List.mem_of_mem_getLast? hlast)] at hblank
      exact absurd hblank Bool.false_ne_true

/-- **Joined words are single spaces apart.** -/
theorem isSingleSpaced_joinWords {tokens : List String} (htokens : ∀ token ∈ tokens, IsWord token) :
    IsSingleSpaced (joinWords tokens).toList := by
  rw [joinWords, String.toList_intercalate]
  induction tokens with
  | nil => exact isSingleSpaced_nil
  | cons token rest ih =>
      obtain ⟨hne, hletters⟩ := htokens token List.mem_cons_self
      have hchars : token.toList ≠ [] := by simpa using hne
      have hrest := ih fun other hother => htokens other (List.mem_cons_of_mem _ hother)
      cases rest with
      | nil => simpa using isSingleSpaced_word hletters
      | cons next rest =>
          have hnext : next.toList ≠ [] := by simpa using (htokens next (by simp)).1
          rw [List.map_cons, List.map_cons, List.intercalate_cons_cons, List.append_assoc]
          refine IsSingleSpaced.behind hchars hletters ?_ hrest
          cases rest with
          | nil => simpa using hnext
          | cons last rest => simp [List.intercalate_cons_cons, hnext]

end UtilityClasses.Text
