import UtilityClasses.Json.Printer
import UtilityClasses.Script.Token

/-!
# Quoted JSON texts are read back

Scripts read a text that was quoted for JSON as the text itself. Each character is written by one
escape or stands for itself, and each is read in one step.
-/

namespace UtilityClasses

open Json Script

/-! ### One character -/

/-- Letters behind a backslash, with the codes of the characters they stand for. -/
def shortEscapes : List (Char × Nat) :=
  [('"', 34), ('\\', 92), ('n', 10), ('r', 13), ('t', 9), ('b', 8), ('f', 12)]

inductive EscapeOf (char : Char) : List Char → Prop where
  | itself (hplain : char ∉ ['"', '\\', '\n', '\r']) : EscapeOf char [char]
  | short {letter : Char} (hletter : (letter, char.toNat) ∈ shortEscapes) :
      EscapeOf char ['\\', letter]
  | code (hcontrol : char.toNat < 32) :
      EscapeOf char
        ['\\', 'u', '0', '0', hexDigit (char.toNat / 16), hexDigit (char.toNat % 16)]

theorem escapeOf_escapeChar (char : Char) : EscapeOf char (escapeChar char) := by
  by_cases hquote : char = '"'
  · subst hquote
    exact .short (by decide)
  by_cases hbackslash : char = '\\'
  · subst hbackslash
    exact .short (by decide)
  by_cases hline : char = '\n'
  · subst hline
    exact .short (by decide)
  by_cases hreturn : char = '\r'
  · subst hreturn
    exact .short (by decide)
  by_cases htab : char = '\t'
  · subst htab
    exact .short (by decide)
  rw [escapeChar, if_neg hquote, if_neg hbackslash, if_neg hline, if_neg hreturn, if_neg htab]
  split
  · next hcode => exact .short (by rw [hcode]; decide)
  · split
    · next hcode => exact .short (by rw [hcode]; decide)
    · split
      · next hcontrol => exact .code hcontrol
      · exact .itself (by simp [hquote, hbackslash, hline, hreturn])

theorem hexDigit_spec :
    ∀ value < 16, isDigitOf 16 (hexDigit value) = true ∧ hexDigit value ≠ '_'
      ∧ digitOf? 16 (hexDigit value) = some value := by
  decide

theorem fourDigitCode_hexDigit {high low : Nat} (hhigh : high < 16) (hlow : low < 16)
    (rest : List Char) :
    fourDigitCode ('0' :: '0' :: hexDigit high :: hexDigit low :: rest)
      = (.ok (high * 16 + low), rest) := by
  obtain ⟨hdigit, hplain, hvalue⟩ := hexDigit_spec high hhigh
  obtain ⟨hdigit', hplain', hvalue'⟩ := hexDigit_spec low hlow
  have hzero : isDigitOf 16 '0' = true := by decide
  have hnone : digitOf? 16 '0' = some 0 := by decide
  simp [fourDigitCode, takeDigitsUpTo, hdigit, hplain, hdigit', hplain', hzero, valueOf, hnone,
    hvalue, hvalue']

theorem readEscape_code {value : Nat} (hcontrol : value < 32) (rest : List Char) :
    readEscape false ('u' :: '0' :: '0' :: hexDigit (value / 16) :: hexDigit (value % 16) :: rest)
      = (.ok [value], rest) := by
  have hhigh : value / 16 < 16 := by omega
  have hlow : value % 16 < 16 := by omega
  have hcode := fourDigitCode_hexDigit hhigh hlow rest
  rw [Nat.div_add_mod' value 16] at hcode
  have hleading : isLeading value = false := by
    rw [isLeading, Bool.and_eq_false_iff, decide_eq_false_iff_not]
    exact Or.inl (by omega)
  rw [readEscape, unicodeEscape, hcode]
  · split
    · next heq => exact absurd heq (by simp)
    · next heq =>
      obtain ⟨hunit, rfl⟩ := Prod.mk.inj heq
      obtain rfl := Except.ok.inj hunit
      rw [hleading, if_neg Bool.false_ne_true]
    · next heq =>
      obtain ⟨hunit, rfl⟩ := Prod.mk.inj heq
      obtain rfl := Except.ok.inj hunit
      rfl
  · simp

theorem readQuoted_escapeChar (char : Char) (fuel : Nat) (read recent : List Nat)
    (rest : List Char) :
    ∃ since, readQuoted '"' (fuel + 1) read recent (escapeChar char ++ rest)
      = readQuoted '"' fuel (char.toNat :: read) since rest := by
  have hescape := escapeOf_escapeChar char
  generalize escapeChar char = text at hescape ⊢
  cases hescape with
  | itself hplain =>
      simp only [List.mem_cons, not_or] at hplain
      obtain ⟨hquote, hbackslash, hline, hreturn, -⟩ := hplain
      refine ⟨char.toNat :: recent, ?_⟩
      rw [List.singleton_append, readQuoted]
      · simp [hquote, hline, hreturn]
      · exact hbackslash
  | short hletter =>
      refine ⟨[], ?_⟩
      have hread : ∀ escape ∈ shortEscapes,
          readEscape false (escape.1 :: rest) = (.ok [escape.2], rest) := by
        intro escape hescape
        simp only [shortEscapes, List.mem_cons, List.not_mem_nil, or_false] at hescape
        rcases hescape with rfl | rfl | rfl | rfl | rfl | rfl | rfl <;> rfl
      simp only [List.cons_append, List.nil_append, readQuoted, hread _ hletter]
      rfl
  | code hcontrol =>
      refine ⟨[], ?_⟩
      simp only [List.cons_append, List.nil_append, readQuoted, readEscape_code hcontrol]
      rfl

/-! ### Whole texts -/

theorem readQuoted_escaped {text : List Char} {fuel : Nat} (hfuel : text.length < fuel)
    (read recent : List Nat) (rest : List Char) :
    readQuoted '"' fuel read recent (text.flatMap escapeChar ++ '"' :: rest)
      = (.ok (read.reverse ++ text.map Char.toNat), rest) := by
  induction text generalizing fuel read recent with
  | nil =>
      obtain ⟨fuel, rfl⟩ := Nat.exists_eq_succ_of_ne_zero (Nat.ne_zero_of_lt hfuel)
      rw [List.flatMap_nil, List.nil_append, readQuoted, if_pos rfl, List.map_nil, List.append_nil]
      simp
  | cons char text ih =>
      obtain ⟨fuel, rfl⟩ := Nat.exists_eq_succ_of_ne_zero (Nat.ne_zero_of_lt hfuel)
      obtain ⟨since, hstep⟩ := readQuoted_escapeChar char fuel read recent
        (text.flatMap escapeChar ++ '"' :: rest)
      rw [List.flatMap_cons, List.append_assoc, hstep, ih (Nat.lt_of_succ_lt_succ hfuel)]
      simp

theorem not_surrogate (char : Char) :
    (isLeading char.toNat || isTrailing char.toNat) = false := by
  have hvalid : char.toNat < 0xD800 ∨ 0xDFFF < char.toNat := by
    rcases char.valid with hlow | ⟨hhigh, _⟩
    · exact Or.inl hlow
    · exact Or.inr hhigh
  simp only [isLeading, isTrailing, Bool.or_eq_false_iff, Bool.and_eq_false_iff,
    decide_eq_false_iff_not]
  omega

/-- Codes of characters hold no halves of pairs. -/
theorem joinSurrogates_codes (text : List Char) :
    joinSurrogates (text.map Char.toNat) = some text := by
  induction text with
  | nil => rfl
  | cons char rest ih =>
      have hwhole := not_surrogate char
      have hleading : isLeading char.toNat = false := (Bool.or_eq_false_iff.1 hwhole).1
      cases rest with
      | nil => simp [joinSurrogates, hwhole]
      | cons next rest =>
          rw [List.map_cons] at ih
          rw [List.map_cons, List.map_cons, joinSurrogates, hleading, Bool.false_and,
            if_neg Bool.false_ne_true, (Bool.or_eq_false_iff.1 hwhole).2, ih]
          simp

theorem length_le_escaped (text : List Char) :
    text.length ≤ (text.flatMap escapeChar).length := by
  induction text with
  | nil => exact Nat.le_refl 0
  | cons char rest ih =>
      have hchar : 0 < (escapeChar char).length := by
        have hescape := escapeOf_escapeChar char
        generalize escapeChar char = text at hescape ⊢
        cases hescape <;> exact Nat.zero_lt_succ _
      rw [List.flatMap_cons, List.length_append, List.length_cons]
      omega

/-- **A quoted text is read back as a token.** -/
theorem readToken_quote (text : String) (rest : List Char) :
    readToken false ((quote text).toList ++ rest) = (.text (some text), rest) := by
  have htext : (quote text).toList ++ rest
      = '"' :: (text.toList.flatMap escapeChar ++ '"' :: rest) := by
    simp [quote]
  have hfuel : text.toList.length < (text.toList.flatMap escapeChar ++ '"' :: rest).length + 1 := by
    have hle := length_le_escaped text.toList
    rw [List.length_append]
    omega
  rw [htext, readToken, if_pos (by decide), readQuoted_escaped hfuel, ofFound]
  simp [spellUnits, joinSurrogates_codes]

end UtilityClasses
