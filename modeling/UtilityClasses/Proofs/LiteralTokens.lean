import UtilityClasses.Proofs.LiteralOperands
import UtilityClasses.Proofs.Numerals
import UtilityClasses.Proofs.Quotation

/-!
# The tokens of JSON text

Where JSON text without blanks is read as a script, each string, number, word and bracket is one
token, and no blank or comment is passed before it.
-/

namespace UtilityClasses.Script

open Json

variable {lineBreak : Bool} {token : Token} {text rest following : List Char}

theorem behind_of_token (hgaps : skipGaps lineBreak text = (text, lineBreak))
    (htoken : readToken false text = (token, rest)) :
    Cursor.behind lineBreak false text = { token, here := text, rest, lineBreak } := by
  simp only [Cursor.behind, hgaps, htoken]

/-- No blank, line end or comment begins with such a character. -/
def isSolid (char : Char) : Bool :=
  !isGap char && !isLineEnd char && !(['/', '<', '-'].contains char)

theorem skipGaps_solid {char : Char} (hsolid : isSolid char = true) (lineBreak : Bool)
    (rest : List Char) : skipGaps lineBreak (char :: rest) = (char :: rest, lineBreak) := by
  simp only [isSolid, Bool.and_eq_true, Bool.not_eq_true'] at hsolid
  obtain ⟨⟨hgap, hline⟩, hcomment⟩ := hsolid
  have hplain : char ≠ '/' ∧ char ≠ '<' ∧ char ≠ '-' := by
    simpa using Bool.eq_false_iff.1 hcomment
  rw [skipGaps, hline, if_neg Bool.false_ne_true, hgap, if_neg Bool.false_ne_true]
  · exact fun _ heq => absurd heq hplain.1
  · exact fun _ heq => absurd heq hplain.1
  · exact fun _ heq => absurd heq hplain.2.1
  · exact fun _ heq => absurd heq hplain.2.2

theorem behind_quote (text : String) (lineBreak : Bool) (rest : List Char) :
    Cursor.behind lineBreak false ((quote text).toList ++ rest)
      = { token := .text (some text), here := (quote text).toList ++ rest, rest, lineBreak } := by
  refine behind_of_token ?_ (readToken_quote text rest)
  rw [quote, String.toList_append, String.toList_append]
  exact skipGaps_solid (by decide) lineBreak _

/-- The punctuators of JSON text. -/
def marks : List (Char × String) :=
  [('[', "["), (']', "]"), ('\x7b', "\x7b"), ('\x7d', "\x7d"), (':', ":"), (',', ",")]

theorem behind_mark {char : Char} {spelling : String} (hmark : (char, spelling) ∈ marks)
    (lineBreak : Bool) (rest : List Char) :
    Cursor.behind lineBreak false (char :: rest)
      = { token := .punctuator spelling, here := char :: rest, rest, lineBreak } := by
  simp only [marks, List.mem_cons, List.not_mem_nil, or_false, Prod.mk.injEq] at hmark
  rcases hmark with ⟨rfl, rfl⟩ | ⟨rfl, rfl⟩ | ⟨rfl, rfl⟩ | ⟨rfl, rfl⟩ | ⟨rfl, rfl⟩ | ⟨rfl, rfl⟩ <;>
    rfl

theorem behind_word {word : String} (hword : word ∈ ["null", "true", "false"]) (lineBreak : Bool)
    (hfollowing : EndsItem following) :
    Cursor.behind lineBreak false (word.toList ++ following)
      = { token := .keyword word word, here := word.toList ++ following, rest := following,
          lineBreak } := by
  simp only [List.mem_cons, List.not_mem_nil, or_false] at hword
  rcases hfollowing with rfl | ⟨char, rest, rfl, rfl | rfl | rfl⟩ <;>
    rcases hword with rfl | rfl | rfl <;> rfl

/-! ### Numbers -/

theorem exists_digit {numeral : List Char} (hnumeral : IsNumeral numeral) :
    ∃ digit rest, numeral = digit :: rest ∧ digit.isDigit = true := by
  obtain ⟨hwhole, _, _⟩ := hnumeral
  obtain ⟨digit, rest, rfl⟩ := List.exists_cons_of_ne_nil hwhole.1.1
  exact ⟨digit, _, rfl, hwhole.1.2 digit (by simp)⟩

theorem mem_digits {digit : Char} (hdigit : digit.isDigit = true) :
    digit ∈ ['0', '1', '2', '3', '4', '5', '6', '7', '8', '9'] := by
  have hall : ∀ value < 10,
      Char.ofNat (48 + value) ∈ ['0', '1', '2', '3', '4', '5', '6', '7', '8', '9'] := by decide
  obtain ⟨hleast, hgreatest⟩ := isDigit_bounds hdigit
  have hdigit := hall (digit.toNat - 48) (by omega)
  rwa [Nat.add_sub_cancel' hleast, Char.ofNat_toNat] at hdigit

theorem digit_plain {digit : Char} (hdigit : digit.isDigit = true) :
    isSolid digit = true ∧ (decide (digit = '"') || decide (digit = '\'')) = false
      ∧ digit ≠ '\x60' := by
  have hmem := mem_digits hdigit
  simp only [List.mem_cons, List.not_mem_nil, or_false] at hmem
  rcases hmem with rfl | rfl | rfl | rfl | rfl | rfl | rfl | rfl | rfl | rfl <;> decide

theorem behind_numeral {numeral : List Char} (hnumeral : IsNumeral numeral) (lineBreak : Bool)
    (hfollowing : EndsItem following) :
    ∃ value, Cursor.behind lineBreak false (numeral ++ following)
      = { token := .number value, here := numeral ++ following, rest := following, lineBreak } := by
  obtain ⟨value, hvalue⟩ := readNumeral_isNumeral hnumeral hfollowing
  obtain ⟨digit, rest, rfl, hdigit⟩ := exists_digit hnumeral
  obtain ⟨hsolid, hquote, hbackquote⟩ := digit_plain hdigit
  refine ⟨value, behind_of_token (skipGaps_solid hsolid lineBreak _) ?_⟩
  rw [List.cons_append] at hvalue ⊢
  rw [readToken, hquote, if_neg Bool.false_ne_true, if_neg hbackquote, hdigit, Bool.true_or,
    if_pos rfl, hvalue]
  rfl

theorem behind_hyphen {numeral : List Char} (hnumeral : IsNumeral numeral) (lineBreak : Bool) :
    Cursor.behind lineBreak false ('-' :: (numeral ++ following))
      = { token := .punctuator "-", here := '-' :: (numeral ++ following),
          rest := numeral ++ following, lineBreak } := by
  obtain ⟨digit, rest, rfl, hdigit⟩ := exists_digit hnumeral
  have hmem := mem_digits hdigit
  simp only [List.mem_cons, List.not_mem_nil, or_false] at hmem
  rcases hmem with rfl | rfl | rfl | rfl | rfl | rfl | rfl | rfl | rfl | rfl <;> rfl

theorem behind_endsItem (hfollowing : EndsItem following) :
    (Cursor.behind false false following).token.EndsItem := by
  rcases hfollowing with rfl | ⟨char, rest, rfl, rfl | rfl | rfl⟩
  · exact .eof
  · exact .comma
  · exact .bracket
  · exact .brace

end UtilityClasses.Script
