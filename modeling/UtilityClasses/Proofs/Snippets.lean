import Mathlib.Data.List.DropRight
import UtilityClasses.Proofs.Spacing
import UtilityClasses.Text.Snippet

/-!
# Snippets are previews on one line

A snippet shows the words of a text with single spaces between them. A line that is too long is cut
behind its longest beginning that fits and does not end in a space. Since two spaces never stand
side by side, the cut moves back by one character at most. What is shown stays on one line, with no
blank around it, and nothing but the words of the text decides it.
-/

namespace UtilityClasses.Text

/-! ### Beginnings of a line -/

/-- The characters at which a line ends: line feed, vertical tab, form feed, carriage return, next
line, line separator and paragraph separator. -/
def lineBreaks : List Char :=
  ['\n', '\x0b', '\x0c', '\r', '\u0085', '\u2028', '\u2029']

/-- The longest beginning of a line that has at most `limit` characters and ends in no space. -/
structure IsCut (limit : Nat) (line piece : List Char) : Prop where
  beginning : piece <+: line
  fits : piece.length ≤ limit
  ends : piece.getLast? ≠ some ' '
  longest : ∀ other, other <+: line → other.length ≤ limit → other.getLast? ≠ some ' ' →
    other.length ≤ piece.length

variable {line piece : List Char}

theorem trimEnd_eq_self (hends : ∀ char ∈ piece.getLast?, isBlank char = false) :
    trimEnd piece = piece := by
  change piece.rdropWhile isBlank = piece
  rw [List.rdropWhile_eq_self_iff]
  intro hne hblank
  rw [hends _ (List.getLast?_eq_some_getLast hne)] at hblank
  exact Bool.false_ne_true hblank

theorem trimEnd_blank {char : Char} (hchar : isBlank char = true) :
    trimEnd (piece ++ [char]) = trimEnd piece :=
  List.rdropWhile_concat_pos isBlank piece char hchar

theorem trimEnd_isPrefix (piece : List Char) : trimEnd piece <+: piece :=
  List.rdropWhile_prefix isBlank piece

/-- A beginning that ends in no blank is single spaced itself. -/
theorem IsSingleSpaced.beginning (hspaced : IsSingleSpaced line) (hpiece : piece <+: line)
    (hends : ∀ char ∈ piece.getLast?, isBlank char = false) : IsSingleSpaced piece where
  begins := by
    intro char hchar
    obtain ⟨rest, rfl⟩ := hpiece
    exact hspaced.begins char (by simp [List.head?_append, Option.mem_def.1 hchar])
  ends := hends
  spaces := fun char hchar => hspaced.spaces char (hpiece.subset hchar)
  apart := hspaced.apart.infix hpiece.isInfix

/-- **A cut meets one space at most**: no second blank stands in front of the one it falls on. -/
theorem IsSingleSpaced.trimEnd_cases (hspaced : IsSingleSpaced line) (hpiece : piece <+: line) :
    (trimEnd piece = piece ∨ piece = trimEnd piece ++ [' '])
      ∧ ∀ char ∈ (trimEnd piece).getLast?, isBlank char = false := by
  rcases List.eq_nil_or_concat' piece with rfl | ⟨before, last, rfl⟩
  · exact ⟨Or.inl rfl, by simp [trimEnd]⟩
  obtain ⟨rest, hline⟩ := hpiece
  by_cases hblank : isBlank last = true
  · obtain rfl : last = ' ' := hspaced.spaces last (by simp [← hline]) hblank
    have hbefore : ∀ char ∈ before.getLast?, isBlank char = false := by
      intro char hchar
      have happart := hspaced.apart
      rw [← hline, List.append_assoc, List.isChain_append] at happart
      by_contra hother
      have hnext := happart.2.2 char hchar ' ' rfl (by simpa using hother)
      rw [hblank] at hnext
      exact Bool.false_ne_true hnext.symm
    rw [trimEnd_blank hblank, trimEnd_eq_self hbefore]
    exact ⟨Or.inr rfl, hbefore⟩
  · have hends : ∀ char ∈ (before ++ [last]).getLast?, isBlank char = false := by
      simpa using hblank
    rw [trimEnd_eq_self hends]
    exact ⟨Or.inl rfl, hends⟩

theorem IsSingleSpaced.isCut (hspaced : IsSingleSpaced line) (limit : Nat) :
    IsCut limit line (trimEnd (line.take limit)) := by
  have htake : line.take limit <+: line := List.take_prefix limit line
  obtain ⟨htrim, hends⟩ := hspaced.trimEnd_cases htake
  refine ⟨(trimEnd_isPrefix _).trans htake, ?_, ?_, ?_⟩
  · exact (trimEnd_isPrefix _).length_le.trans (List.length_take_le limit line)
  · intro hspace
    exact absurd (hends ' ' hspace) (by decide)
  · intro other hother hfits hother_ends
    have hbefore : other <+: line.take limit := List.prefix_take_iff.2 ⟨hother, hfits⟩
    rcases htrim with htrim | htrim
    · rw [htrim]
      exact hbefore.length_le
    · -- A beginning as long as the cut line would be the cut line, which ends in a space.
      have hne : other.length ≠ (line.take limit).length := by
        intro hlength
        rw [hbefore.eq_of_length hlength, htrim] at hother_ends
        simp at hother_ends
      have hlength : (line.take limit).length = (trimEnd (line.take limit)).length + 1 := by
        conv_lhs => rw [htrim, List.length_append, List.length_singleton]
      have := hbefore.length_le
      omega

/-- A cut line is as long as allowed, or one character shorter. -/
theorem IsSingleSpaced.length_cut (hspaced : IsSingleSpaced line) {limit : Nat}
    (hlong : limit < line.length) :
    (trimEnd (line.take limit)).length + 1 = limit ∨ (trimEnd (line.take limit)).length = limit := by
  have hlength : (line.take limit).length = limit := List.length_take_of_le hlong.le
  rcases (hspaced.trimEnd_cases (List.take_prefix limit line)).1 with htrim | htrim
  · rw [htrim]
    exact Or.inr hlength
  · rw [htrim, List.length_append, List.length_singleton] at hlength
    exact Or.inl hlength

theorem IsSingleSpaced.append {letters : List Char} (hspaced : IsSingleSpaced line)
    (hletters : ∀ char ∈ letters, isBlank char = false) : IsSingleSpaced (line ++ letters) where
  begins := by
    intro char hchar
    rw [List.head?_append, Option.mem_def, Option.or_eq_some_iff] at hchar
    rcases hchar with hchar | ⟨_, hchar⟩
    · exact hspaced.begins char hchar
    · exact hletters char (List.mem_of_mem_head? hchar)
  ends := by
    intro char hchar
    rw [List.getLast?_append, Option.mem_def, Option.or_eq_some_iff] at hchar
    rcases hchar with hchar | ⟨_, hchar⟩
    · exact hletters char (List.mem_of_mem_getLast? hchar)
    · exact hspaced.ends char hchar
  spaces := by
    intro char hchar hblank
    rcases List.mem_append.1 hchar with hchar | hchar
    · exact hspaced.spaces char hchar hblank
    · rw [hletters char hchar] at hblank
      exact absurd hblank Bool.false_ne_true
  apart := by
    rw [List.isChain_append]
    refine ⟨hspaced.apart, (isSingleSpaced_word hletters).apart, ?_⟩
    intro last _ first hfirst _
    exact hletters first (List.mem_of_mem_head? hfirst)

theorem IsSingleSpaced.not_lineBreak (hspaced : IsSingleSpaced line) :
    ∀ char ∈ lineBreaks, char ∉ line := by
  intro char hbreak hchar
  have hblank : lineBreaks.all isBlank = true := by decide
  have hspace : ' ' ∉ lineBreaks := by decide
  obtain rfl := hspaced.spaces char hchar (List.all_eq_true.1 hblank char hbreak)
  exact hspace hbreak

/-! ### Snippets -/

theorem isSingleSpaced_condense (text : String) : IsSingleSpaced (condense text).toList :=
  isSingleSpaced_joinWords fun _ htoken => isWord_of_mem_wordsOf htoken

theorem snippet_short {text : String} (hshort : (condense text).length ≤ snippetLimit) :
    snippet text = condense text := by
  rw [snippet, String.length_toList, if_pos hshort, String.ofList_toList]

theorem snippet_long {text : String} (hlong : snippetLimit < (condense text).length) :
    snippet text = String.ofList (trimEnd ((condense text).toList.take snippetLimit)) ++ "..." := by
  rw [snippet, String.length_toList, if_neg hlong.not_ge]

theorem isSingleSpaced_snippet (text : String) : IsSingleSpaced (snippet text).toList := by
  have hspaced := isSingleSpaced_condense text
  rcases Nat.lt_or_ge snippetLimit (condense text).length with hlong | hshort
  · have htake := List.take_prefix snippetLimit (condense text).toList
    rw [snippet_long hlong, String.toList_append, String.toList_ofList]
    exact (hspaced.beginning ((trimEnd_isPrefix _).trans htake)
      (hspaced.trimEnd_cases htake).2).append (forall_noBlank (by decide))
  · rw [snippet_short hshort]
    exact hspaced

/-- The dots may stand behind a full line. -/
theorem length_snippet_le (text : String) : (snippet text).length ≤ snippetLimit + 3 := by
  rcases Nat.lt_or_ge snippetLimit (condense text).length with hlong | hshort
  · have hfits := ((isSingleSpaced_condense text).isCut snippetLimit).fits
    rw [snippet_long hlong, String.length_append, String.length_ofList]
    exact Nat.add_le_add_right hfits 3
  · rw [snippet_short hshort]
    exact hshort.trans (Nat.le_add_right _ _)

/-- **A snippet previews the words of a text on one line.** Up to sixty characters it is the words
with single spaces between them. A longer line is cut to its longest beginning that fits and ends in
no space, and three dots follow. The preview has no line break, no two blanks side by side and no
blank around it, and texts with the same words have the same one. -/
theorem snippet_previews (text : String) :
    ((joinWords (wordsOf text)).length ≤ 60 → snippet text = joinWords (wordsOf text))
      ∧ (60 < (joinWords (wordsOf text)).length →
          ∃ piece, snippet text = String.ofList piece ++ "..."
            ∧ IsCut 60 (joinWords (wordsOf text)).toList piece
            ∧ (piece.length = 59 ∨ piece.length = 60))
      ∧ (snippet text).length ≤ 63
      ∧ (∀ char ∈ lineBreaks, char ∉ (snippet text).toList)
      ∧ IsSingleSpaced (snippet text).toList
      ∧ ∀ other, wordsOf other = wordsOf text → snippet other = snippet text := by
  have hspaced := isSingleSpaced_condense text
  refine ⟨snippet_short, ?_, length_snippet_le text, (isSingleSpaced_snippet text).not_lineBreak,
    isSingleSpaced_snippet text, ?_⟩
  · intro hlong
    refine ⟨_, snippet_long hlong, hspaced.isCut 60, ?_⟩
    rw [← String.length_toList] at hlong
    exact (hspaced.length_cut hlong).imp_left Nat.succ.inj
  · intro other hwords
    have hcondense : condense other = condense text := congrArg joinWords hwords
    rw [snippet, snippet, hcondense]

/-- The cut falls on the space between two words, so one character less is shown. The words may
stand on other lines. -/
theorem snippet_previews_between_words :
    let left := List.replicate 59 'a'
    let text := String.ofList (left ++ "\n\t bcd".toList)
    let other := String.ofList ("\r\n".toList ++ left ++ "\u2003bcd ".toList)
    60 < (joinWords (wordsOf text)).length
      ∧ snippet text = String.ofList left ++ "..."
      ∧ IsCut 60 (joinWords (wordsOf text)).toList left
      ∧ wordsOf other = wordsOf text
      ∧ snippet other = snippet text := by
  intro left text other
  have hlong : 60 < (joinWords (wordsOf text)).length := by decide +kernel
  have hshown : snippet text = String.ofList left ++ "..." := by decide +kernel
  have hwords : wordsOf other = wordsOf text := by decide +kernel
  obtain ⟨-, hcut, -, -, -, hsame⟩ := snippet_previews text
  obtain ⟨piece, hsnippet, hcut, -⟩ := hcut hlong
  have hpiece : piece = left := by
    rw [hshown] at hsnippet
    exact String.ofList_injective (String.append_left_inj _ |>.1 hsnippet).symm
  exact ⟨hlong, hshown, hpiece ▸ hcut, hwords, hsame other hwords⟩

end UtilityClasses.Text
