import UtilityClasses.Json.Printer
import UtilityClasses.Script.Literal

/-!
# Numbers as numerals

A number is written as a numeral with an optional sign in front: a whole part without leading zeros,
a fraction and an exponent. Scripts read every such numeral as one number.
-/

namespace UtilityClasses

open Script

/-! ### The grammar of numerals -/

def IsDigits (text : List Char) : Prop := text ≠ [] ∧ ∀ char ∈ text, char.isDigit = true

/-- Digits without leading zeros. -/
def IsWhole (text : List Char) : Prop := IsDigits text ∧ (text.head? = some '0' → text = ['0'])

inductive IsFraction : List Char → Prop where
  | none : IsFraction []
  | point {digits : List Char} (hdigits : IsDigits digits) : IsFraction ('.' :: digits)

inductive IsExponent : List Char → Prop where
  | none : IsExponent []
  | signed {sign : Char} {digits : List Char} (hsign : sign = '+' ∨ sign = '-')
      (hdigits : IsDigits digits) : IsExponent ('e' :: sign :: digits)

/-- A number without a sign. -/
inductive IsNumeral : List Char → Prop where
  | parts {whole fraction exponent : List Char} (hwhole : IsWhole whole)
      (hfraction : IsFraction fraction) (hexponent : IsExponent exponent) :
      IsNumeral (whole ++ (fraction ++ exponent))

theorem IsDigits.append {left right : List Char} (hleft : IsDigits left)
    (hright : ∀ char ∈ right, char.isDigit = true) : IsDigits (left ++ right) := by
  refine ⟨fun hempty => hleft.1 (List.append_eq_nil_iff.1 hempty).1, fun char hchar => ?_⟩
  exact (List.mem_append.1 hchar).elim (hleft.2 char) (hright char)

def isNumeralChar (char : Char) : Bool := char.isDigit || ['.', 'e', '+', '-'].contains char

theorem IsDigits.isNumeralChar {digits : List Char} (hdigits : IsDigits digits) :
    ∀ char ∈ digits, isNumeralChar char = true := by
  intro char hchar
  rw [UtilityClasses.isNumeralChar, hdigits.2 char hchar, Bool.true_or]

theorem IsNumeral.isNumeralChar {numeral : List Char} (hnumeral : IsNumeral numeral) :
    ∀ char ∈ numeral, isNumeralChar char = true := by
  obtain ⟨hwhole, hfraction, hexponent⟩ := hnumeral
  intro char hchar
  rw [List.mem_append, List.mem_append] at hchar
  rcases hchar with hchar | hchar | hchar
  · exact hwhole.1.isNumeralChar char hchar
  · cases hfraction with
    | none => exact absurd hchar List.not_mem_nil
    | point hdigits =>
        rcases List.mem_cons.1 hchar with rfl | hchar
        · rfl
        · exact hdigits.isNumeralChar char hchar
  · cases hexponent with
    | none => exact absurd hchar List.not_mem_nil
    | signed hsign hdigits =>
        rw [List.mem_cons, List.mem_cons] at hchar
        rcases hchar with rfl | rfl | hchar
        · rfl
        · rcases hsign with rfl | rfl <;> rfl
        · exact hdigits.isNumeralChar char hchar

/-! ### Decimal digits -/

theorem isDigits_toDigits (value : Nat) : IsDigits (Nat.toDigits 10 value) :=
  ⟨Nat.toDigits_ne_nil, fun _ hchar =>
    Nat.isDigit_of_mem_toDigits (by decide) (by decide) hchar⟩

theorem digitChar_ne_zero {value : Nat} (hpos : 0 < value) (hlt : value < 10) :
    Nat.digitChar value ≠ '0' := by
  have hall : ∀ digit < 10, 0 < digit → Nat.digitChar digit ≠ '0' := by decide
  exact hall value hlt hpos

theorem head_toDigits_ne_zero {value : Nat} (hpos : 0 < value) :
    (Nat.toDigits 10 value).head? ≠ some '0' := by
  induction value using Nat.strongRecOn with
  | _ value ih =>
      by_cases hsmall : value < 10
      · rw [Nat.toDigits_of_lt_base hsmall]
        simpa using digitChar_ne_zero hpos hsmall
      · rw [Nat.toDigits_of_base_le (by decide) (by omega)]
        have hrest := ih (value / 10) (by omega) (by omega)
        have hne : Nat.toDigits 10 (value / 10) ≠ [] := Nat.toDigits_ne_nil
        obtain ⟨first, digits, hdigits⟩ := List.exists_cons_of_ne_nil hne
        rw [hdigits] at hrest ⊢
        exact hrest

theorem isWhole_toDigits (value : Nat) : IsWhole (Nat.toDigits 10 value) := by
  refine ⟨isDigits_toDigits value, fun hzero => ?_⟩
  rcases Nat.eq_zero_or_pos value with rfl | hpos
  · exact Nat.toDigits_zero 10
  · exact absurd hzero (head_toDigits_ne_zero hpos)

/-! ### Digits of doubles -/

namespace Decimal

theorem roundRatio_zero (denominator : Nat) : roundRatio 0 denominator = .finite 0 0 := by
  rw [roundRatio, if_pos rfl]

theorem ratio_zero {decimal : Scaled} (hzero : decimal.digits = 0) : decimal.ratio.1 = 0 := by
  rw [Scaled.ratio]
  split
  · rw [hzero, Nat.zero_mul]
  · exact hzero

/-- What reads back as a magnitude that is not zero has a digit that is not zero. -/
theorem digits_pos_of_readsBackAt {magnitude : Magnitude} {exponent : Int} {decimal : Scaled}
    (hnonzero : magnitude.isZero = false) (hreads : readsBackAt magnitude exponent = some decimal) :
    0 < decimal.digits := by
  have hfits {other : Scaled}
      (hfit : (roundRatio other.ratio.1 other.ratio.2 == magnitude) = true) : 0 < other.digits := by
    rcases Nat.eq_zero_or_pos other.digits with hzero | hpos
    · rw [ratio_zero hzero, roundRatio_zero, beq_iff_eq] at hfit
      rw [← hfit] at hnonzero
      exact absurd hnonzero (by decide)
    · exact hpos
  simp only [readsBackAt] at hreads
  split at hreads
  · next hbelow habove =>
    split at hreads
    · obtain rfl := Option.some.inj hreads
      exact hfits habove
    · obtain rfl := Option.some.inj hreads
      exact hfits hbelow
  · next hbelow _ =>
    obtain rfl := Option.some.inj hreads
    exact hfits hbelow
  · next _ habove =>
    obtain rfl := Option.some.inj hreads
    exact hfits habove
  · exact absurd hreads (by simp)

theorem shortest_digits_pos {magnitude : Magnitude} (hfinite : magnitude ≠ .infinite)
    (hnonzero : magnitude.isZero = false) : 0 < (shortest magnitude).digits := by
  simp only [shortest]
  generalize hcounts : ((List.range 17).map fun (count : Nat) =>
    decimalPoint magnitude.ratio.1 magnitude.ratio.2 - ((count : Int) + 1)) = counts
  cases hfound : counts.findSome? (readsBackAt magnitude) with
  | some decimal =>
      obtain ⟨exponent, _, hreads⟩ := List.exists_of_findSome?_eq_some hfound
      exact digits_pos_of_readsBackAt hnonzero hreads
  | none =>
      cases magnitude with
      | infinite => exact absurd rfl hfinite
      | finite significand exponent =>
          have hpos : 0 < significand :=
            Nat.pos_of_ne_zero (by simpa [Magnitude.isZero] using hnonzero)
          change 0 < (scaleRatio significand 1 exponent).1
          cases exponent with
          | ofNat shift => exact Nat.mul_pos hpos (Nat.two_pow_pos shift)
          | negSucc shift => exact hpos

theorem dropZeros_digits_pos {decimal : Scaled} (hpos : 0 < decimal.digits) (fuel : Nat) :
    0 < (decimal.dropZeros fuel).digits := by
  induction fuel generalizing decimal with
  | zero => exact hpos
  | succ fuel ih =>
      rw [Scaled.dropZeros]
      split
      · next hzero =>
        simp only [Bool.and_eq_true, decide_eq_true_eq] at hzero
        exact ih (Nat.div_pos (by omega) (by decide))
      · exact hpos

theorem shortestDigits_spec {magnitude : Magnitude} (hfinite : magnitude ≠ .infinite)
    (hnonzero : magnitude.isZero = false) :
    IsDigits (shortestDigits magnitude).1 ∧ (shortestDigits magnitude).1.head? ≠ some '0' := by
  have hpos := dropZeros_digits_pos (shortest_digits_pos hfinite hnonzero) 400
  exact ⟨isDigits_toDigits _, head_toDigits_ne_zero hpos⟩

theorem zeros_toList (count : Nat) : (zeros count).toList = List.replicate count '0' := by
  rw [zeros, String.toList_ofList]

theorem isDigit_of_mem_zeros {count : Nat} :
    ∀ char ∈ List.replicate count '0', char.isDigit = true := by
  intro char hchar
  rw [List.eq_of_mem_replicate hchar]
  rfl

theorem isWhole_of_head {digits : List Char} (hdigits : IsDigits digits)
    (hhead : digits.head? ≠ some '0') : IsWhole digits :=
  ⟨hdigits, fun hzero => absurd hzero hhead⟩

/-- The layouts of digits, which have no leading zero, with a point or zeros behind them. -/
theorem placePoint_isNumeral {digits : List Char} (point : Int) (hdigits : IsDigits digits)
    (hhead : digits.head? ≠ some '0') :
    if (digits.length : Int) ≤ point then IsWhole (placePoint digits point).toList
    else IsNumeral (placePoint digits point).toList := by
  have hlength : 0 < digits.length := List.length_pos_iff.2 hdigits.1
  obtain ⟨first, rest, rfl⟩ := List.exists_cons_of_ne_nil hdigits.1
  rw [placePoint]
  split
  · next hwhole =>
    rw [if_neg (by omega), String.toList_append, String.toList_ofList, zeros_toList]
    exact isWhole_of_head (hdigits.append isDigit_of_mem_zeros) hhead
  · next hpoint =>
    split
    · next hleft =>
      have hzeros : IsDigits (List.replicate (-point).toNat '0' ++ first :: rest) := by
        refine ⟨by simp, fun char hchar => ?_⟩
        exact (List.mem_append.1 hchar).elim (isDigit_of_mem_zeros char) (hdigits.2 char)
      have hzero : IsWhole ['0'] := isWhole_toDigits 0
      have hnumeral := IsNumeral.parts hzero (.point hzeros) .none
      simpa [zeros_toList] using hnumeral
    · next hright =>
      obtain ⟨count, hcount⟩ : ∃ count : Nat, point = (count : Int) + 1 :=
        ⟨(point - 1).toNat, by omega⟩
      have htoNat : point.toNat = count + 1 := by omega
      have hwhole : IsWhole ((first :: rest).take point.toNat) := by
        rw [htoNat, List.take_succ_cons]
        refine isWhole_of_head ⟨by simp, fun char hchar => ?_⟩ hhead
        exact hdigits.2 char (List.mem_of_mem_take (by rwa [List.take_succ_cons]))
      have hfraction : IsDigits ((first :: rest).drop point.toNat) := by
        refine ⟨fun hempty => ?_, fun char hchar => hdigits.2 char (List.mem_of_mem_drop hchar)⟩
        have := List.drop_eq_nil_iff.1 hempty
        omega
      have hnumeral := IsNumeral.parts hwhole (.point hfraction) .none
      simpa using hnumeral

theorem exponent_isExponent (point : Int) :
    IsExponent ((if 0 < point then "e+" else "e") ++ toString (point - 1)).toList := by
  rw [Int.toString_eq_repr, Int.repr_eq_if]
  by_cases hpos : 0 < point
  · rw [if_pos hpos, if_pos (by omega), String.toList_append, Nat.toList_repr]
    exact .signed (Or.inl rfl) (isDigits_toDigits _)
  · rw [if_neg hpos, if_neg (by omega), String.toList_append, String.toList_append,
      Nat.toList_repr]
    exact .signed (Or.inr rfl) (isDigits_toDigits _)

/-- **A finite double is written as a numeral** behind its sign. -/
theorem scientific_isNumeral {value : Double} (hfinite : value.magnitude ≠ .infinite) :
    ∃ numeral, IsNumeral numeral ∧ (scientific value).toList = (sign value).toList ++ numeral := by
  rw [scientific]
  split
  · next hinfinite => exact absurd hinfinite hfinite
  · next magnitude significand exponent hmagnitude =>
    split
    · refine ⟨['0', '.', '0'], ?_, by simp⟩
      exact .parts (isWhole_toDigits 0) (.point (isDigits_toDigits 0)) .none
    · next hzero =>
      rw [← hmagnitude] at hzero
      obtain ⟨hdigits, hhead⟩ := shortestDigits_spec hfinite (Bool.eq_false_iff.2 hzero)
      rw [hmagnitude] at hdigits hhead
      rcases hshortest : shortestDigits (.finite significand exponent) with ⟨digits, point⟩
      rw [hshortest] at hdigits hhead
      refine ⟨_, ?_, String.toList_append⟩
      have hplaced := placePoint_isNumeral point hdigits hhead
      split
      · split
        · next hwhole =>
          rw [if_pos hwhole] at hplaced
          rw [String.toList_append]
          exact .parts hplaced (.point (isDigits_toDigits 0)) .none
        · next hpoint =>
          rw [if_neg hpoint] at hplaced
          exact hplaced
      · have hexponent := exponent_isExponent point
        generalize (if 0 < point then "e+" else "e") ++ toString (point - 1) = power at hexponent
        rcases digits with _ | ⟨digit, _ | ⟨next, rest⟩⟩
        · exact absurd rfl hdigits.1
        · change IsNumeral (String.ofList [digit] ++ power).toList
          rw [String.toList_append, String.toList_ofList]
          exact .parts (isWhole_of_head hdigits hhead) .none hexponent
        · have hdigit : IsDigits [digit] := ⟨by simp, by simpa using hdigits.2 digit (by simp)⟩
          have hrest : IsDigits (next :: rest) :=
            ⟨by simp, fun char hchar => hdigits.2 char (List.mem_cons_of_mem _ hchar)⟩
          have hnumeral := IsNumeral.parts (isWhole_of_head hdigit hhead) (.point hrest) hexponent
          simpa using hnumeral

end Decimal

namespace Json

/-- JSON text has no spelling for infinities. -/
def Number.IsFinite : Number → Prop
  | .double value => value.magnitude ≠ .infinite
  | _ => True

/-- **A number is written as a numeral**, with a hyphen in front when it is negative. -/
theorem Number.render_isNumeral {number : Number} (hfinite : number.IsFinite) :
    ∃ sign numeral, (sign = [] ∨ sign = ['-']) ∧ IsNumeral numeral
      ∧ number.render.toList = sign ++ numeral := by
  have hnatural (value : Nat) : IsNumeral (Nat.toDigits 10 value) := by
    simpa using IsNumeral.parts (isWhole_toDigits value) .none .none
  cases number with
  | natural value => exact ⟨[], _, Or.inl rfl, hnatural value, Nat.toList_repr⟩
  | negative absolute =>
      refine ⟨['-'], _, Or.inr rfl, hnatural absolute, ?_⟩
      rw [Number.render, String.toList_append, ← Nat.toList_repr]
      rfl
  | double value =>
      obtain ⟨numeral, hnumeral, htext⟩ := Decimal.scientific_isNumeral hfinite
      refine ⟨(Decimal.sign value).toList, numeral, ?_, hnumeral, htext⟩
      rw [Decimal.sign]
      split
      · exact Or.inr rfl
      · exact Or.inl rfl

end Json

/-! ### Reading numerals -/

namespace Script

/-- What may stand behind an item between brackets, when the text has no blanks. -/
def EndsItem (following : List Char) : Prop :=
  following = [] ∨ ∃ char rest, following = char :: rest ∧ (char = ',' ∨ char = ']' ∨ char = '\x7d')

theorem isDigit_bounds {char : Char} (hdigit : char.isDigit = true) :
    48 ≤ char.toNat ∧ char.toNat ≤ 57 := by
  rw [Char.isDigit, Bool.and_eq_true, decide_eq_true_eq, decide_eq_true_eq, ge_iff_le,
    UInt32.le_iff_toNat_le, UInt32.le_iff_toNat_le] at hdigit
  exact hdigit

theorem isDigitOrSeparator_of_isDigit {char : Char} (hdigit : char.isDigit = true) :
    isDigitOrSeparator 10 char = true := by
  obtain ⟨hleast, hgreatest⟩ := isDigit_bounds hdigit
  have hvalue : char.toNat - 48 < 10 := by omega
  simp [isDigitOrSeparator, isDigitOf, digitOf?, hleast, hgreatest, hvalue]

/-- What follows the whole part of a numeral begins with none of the characters that would belong to
it or change its base. -/
def EndsDigits (following : List Char) : Prop :=
  following = [] ∨
    ∃ char rest, following = char :: rest ∧ char ∈ ['.', 'e', ',', ']', '\x7d']

theorem EndsItem.endsDigits {following : List Char} (hfollowing : EndsItem following) :
    EndsDigits following := by
  rcases hfollowing with rfl | ⟨char, rest, rfl, hchar⟩
  · exact Or.inl rfl
  · exact Or.inr ⟨char, rest, rfl, by rcases hchar with rfl | rfl | rfl <;> decide⟩

theorem takeWhile_digits {digits following : List Char}
    (hdigits : ∀ char ∈ digits, char.isDigit = true) (hfollowing : EndsDigits following) :
    (digits ++ following).takeWhile (isDigitOrSeparator 10) = digits
      ∧ (digits ++ following).dropWhile (isDigitOrSeparator 10) = following := by
  have hall : ∀ char ∈ digits, isDigitOrSeparator 10 char = true := fun char hchar =>
    isDigitOrSeparator_of_isDigit (hdigits char hchar)
  rw [List.takeWhile_append_of_pos hall, List.dropWhile_append_of_pos hall]
  rcases hfollowing with rfl | ⟨char, rest, rfl, hchar⟩
  · simp
  · have hend : ¬isDigitOrSeparator 10 char = true := by
      simp only [List.mem_cons, List.not_mem_nil, or_false] at hchar
      rcases hchar with rfl | rfl | rfl | rfl | rfl <;> decide
    rw [List.takeWhile_cons_of_neg hend, List.dropWhile_cons_of_neg hend]
    simp

theorem takeDigits_append {digits following : List Char}
    (hdigits : ∀ char ∈ digits, char.isDigit = true) (hfollowing : EndsDigits following) :
    takeDigits 10 (digits ++ following) = (digits, following) := by
  have hplain : ∀ char ∈ digits, (char != '_') = true := by
    intro char hchar
    have hdigit := hdigits char hchar
    rw [bne_iff_ne]
    rintro rfl
    exact absurd hdigit (by decide)
  obtain ⟨htake, hdrop⟩ := takeWhile_digits hdigits hfollowing
  rw [takeDigits, htake, hdrop, List.filter_eq_self.2 hplain]

theorem finishNumeral_endsItem (value : Decimal.Double) {following : List Char}
    (hfollowing : EndsItem following) :
    finishNumeral value following = (.ok (.number value), following) := by
  rcases hfollowing with rfl | ⟨char, rest, rfl, rfl | rfl | rfl⟩ <;> rfl

theorem readExponent_isExponent {exponent following : List Char} (hexponent : IsExponent exponent)
    (hfollowing : EndsItem following) (digits fraction : Nat) :
    ∃ value, readExponent digits fraction (exponent ++ following)
      = (.ok (.number value), following) := by
  cases hexponent with
  | none =>
      rcases hfollowing with rfl | ⟨char, rest, rfl, rfl | rfl | rfl⟩ <;> exact ⟨_, rfl⟩
  | @signed sign power hsign hpower =>
      have hdigits := takeDigits_append hpower.2 hfollowing.endsDigits
      have hempty : power.isEmpty = false := by simpa using hpower.1
      rcases hsign with rfl | rfl <;>
        simp [readExponent, hdigits, hempty, finishNumeral_endsItem _ hfollowing]

theorem endsDigits_exponent {exponent following : List Char} (hexponent : IsExponent exponent)
    (hfollowing : EndsItem following) : EndsDigits (exponent ++ following) := by
  cases hexponent with
  | none => exact hfollowing.endsDigits
  | signed hsign hpower => exact Or.inr ⟨'e', _, rfl, by decide⟩

theorem endsDigits_fraction {fraction exponent following : List Char}
    (hfraction : IsFraction fraction) (hexponent : IsExponent exponent)
    (hfollowing : EndsItem following) : EndsDigits (fraction ++ (exponent ++ following)) := by
  cases hfraction with
  | none =>
      rw [List.nil_append]
      exact endsDigits_exponent hexponent hfollowing
  | point hdigits => exact Or.inr ⟨'.', _, rfl, by decide⟩

theorem not_octal {whole following : List Char} (hwhole : IsWhole whole)
    (hfollowing : EndsDigits following) :
    (decide ((whole ++ following).head? = some '0') &&
      decide (1 < ((whole ++ following).takeWhile (isDigitOrSeparator 10)).length)) = false := by
  rw [(takeWhile_digits hwhole.1.2 hfollowing).1, Bool.and_eq_false_iff, decide_eq_false_iff_not,
    decide_eq_false_iff_not]
  obtain ⟨first, digits, rfl⟩ := List.exists_cons_of_ne_nil hwhole.1.1
  by_cases hzero : first = '0'
  · refine Or.inr ?_
    rw [hwhole.2 (congrArg some hzero)]
    decide
  · exact Or.inl fun hhead => hzero (Option.some.inj hhead)

theorem readDecimal_parts {whole fraction exponent following : List Char} (hwhole : IsWhole whole)
    (hfraction : IsFraction fraction) (hexponent : IsExponent exponent)
    (hfollowing : EndsItem following) :
    ∃ value, readDecimal (whole ++ (fraction ++ (exponent ++ following)))
      = (.ok (.number value), following) := by
  have hends := endsDigits_fraction hfraction hexponent hfollowing
  simp only [readDecimal, takeDigits_append hwhole.1.2 hends, not_octal hwhole hends,
    Bool.false_and, Bool.false_eq_true, if_false]
  cases hfraction with
  | none =>
      obtain ⟨value, hvalue⟩ := readExponent_isExponent hexponent hfollowing (valueOf 10 whole) 0
      refine ⟨value, ?_⟩
      rw [List.nil_append, ← hvalue]
      cases hexponent with
      | none => rcases hfollowing with rfl | ⟨char, rest, rfl, rfl | rfl | rfl⟩ <;> rfl
      | signed hsign hpower => rfl
  | @point digits hdigits =>
      have hfound := takeDigits_append hdigits.2 (endsDigits_exponent hexponent hfollowing)
      rw [List.cons_append]
      simp only [hfound]
      exact readExponent_isExponent hexponent hfollowing _ _

/-- **A numeral before the end of an item is read as one number.** -/
theorem readNumeral_isNumeral {numeral following : List Char} (hnumeral : IsNumeral numeral)
    (hfollowing : EndsItem following) :
    ∃ value, readNumeral (numeral ++ following) = (.ok (.number value), following) := by
  obtain ⟨hwhole, hfraction, hexponent⟩ := hnumeral
  have hends := endsDigits_fraction hfraction hexponent hfollowing
  obtain ⟨value, hvalue⟩ := readDecimal_parts hwhole hfraction hexponent hfollowing
  refine ⟨value, ?_⟩
  rw [List.append_assoc, List.append_assoc, ← hvalue]
  unfold readNumeral
  split
  · next mark rest htext =>
    -- The whole part is the zero alone, so the mark is none of a base.
    obtain ⟨first, digits, rfl⟩ := List.exists_cons_of_ne_nil hwhole.1.1
    obtain ⟨rfl, -⟩ := List.cons.inj htext
    obtain ⟨-, rfl⟩ := List.cons.inj (hwhole.2 rfl)
    have htail : _ ++ _ = mark :: rest := (List.cons.inj htext).2
    rcases hends with hempty | ⟨char, after, hafter, hchar⟩
    · exact absurd (hempty.symm.trans htail) (by simp)
    · obtain ⟨rfl, rfl⟩ := List.cons.inj (hafter.symm.trans htail)
      have hmark : ∀ mark ∈ ['.', 'e', ',', ']', '\x7d'],
          (decide (mark = 'x') || decide (mark = 'X')) = false
            ∧ (decide (mark = 'o') || decide (mark = 'O')) = false
            ∧ (decide (mark = 'b') || decide (mark = 'B')) = false := by simp
      obtain ⟨hhex, hoctal, hbinary⟩ := hmark char hchar
      simp only [hhex, hoctal, hbinary, Bool.false_eq_true, if_false]
  · rfl

end Script

end UtilityClasses
