import UtilityClasses.Proofs.Balanced
import UtilityClasses.Proofs.Numerals
import UtilityClasses.Proofs.Quotation

/-!
# The compact text of a value is balanced

Brackets stand in pairs in the compact text of a value, and what its strings hold stands between
double quotes. So a list of arguments that holds the text closes behind it.
-/

namespace UtilityClasses.Json

open UtilityClasses.Source

/-! ### Values that JSON text spells -/

mutual

/-- No object repeats a key and no number is infinite. -/
def Value.IsJson : Value → Prop
  | .null => True
  | .boolean _ => True
  | .number value => value.IsFinite
  | .text _ => True
  | .list items => itemsAreJson items
  | .object fields => (fields.map Prod.fst).Nodup ∧ fieldsAreJson fields

def itemsAreJson : List Value → Prop
  | [] => True
  | item :: rest => item.IsJson ∧ itemsAreJson rest

def fieldsAreJson : List (String × Value) → Prop
  | [] => True
  | (_, value) :: rest => value.IsJson ∧ fieldsAreJson rest

end

/-! ### Texts between commas -/

def joined (texts : List String) : List Char := (",".intercalate texts).toList

/-- What stands behind the first of several texts: a comma and the others, if there are any. -/
def joinedBehind : List String → List Char
  | [] => []
  | text :: rest => ',' :: joined (text :: rest)

theorem joined_cons (text : String) (rest : List String) :
    joined (text :: rest) = text.toList ++ joinedBehind rest := by
  cases rest with
  | nil => simp [joined, joinedBehind]
  | cons next rest => simp [joined, joinedBehind]

theorem compact_list (items : List Value) :
    (Value.list items).compact.toList = '[' :: (joined (compactItems items) ++ [']']) := by
  rw [Value.compact, String.toList_append, String.toList_append]
  rfl

theorem compact_object (fields : Fields) :
    (Value.object fields).compact.toList
      = '\x7b' :: (joined (compactFields fields) ++ ['\x7d']) := by
  rw [Value.compact, String.toList_append, String.toList_append]
  rfl

theorem joined_field (key : String) (value : Value) (rest : Fields) :
    joined (compactFields ((key, value) :: rest))
      = (quote key).toList
        ++ ':' :: (value.compact.toList ++ joinedBehind (compactFields rest)) := by
  rw [compactFields, joined_cons, String.toList_append, String.toList_append]
  simp

/-! ### Balance -/

/-- Characters that are code of their own wherever they stand. -/
def isBare (char : Char) : Bool := !isSpecial char && char != '/'

theorem balanced_bare {char : Char} {rest : List Char} (hbare : isBare char = true)
    (hrest : Balanced .code rest) : Balanced .code (char :: rest) := by
  rw [isBare, Bool.and_eq_true, Bool.not_eq_true', bne_iff_ne] at hbare
  exact .plain hbare.1 (fun heq => absurd heq hbare.2) hrest

theorem balanced_append {text rest : List Char} (htext : text.all isBare = true)
    (hrest : Balanced .code rest) : Balanced .code (text ++ rest) := by
  induction text with
  | nil => exact hrest
  | cons char text ih =>
      rw [List.all_cons, Bool.and_eq_true] at htext
      exact balanced_bare htext.1 (ih htext.2)

theorem isBare_of_isNumeralChar {char : Char} (hchar : isNumeralChar char = true) :
    isBare char = true := by
  have hothers : ∀ other ∈ ['(', ')', '\x7b', '\x7d', '\'', '"', '\x60', '/'],
      isNumeralChar other = false := by simp [isNumeralChar]
  have hspecial : isSpecial char = false := by
    rw [Bool.eq_false_iff]
    intro hmem
    have hother := hothers char (List.mem_append_left ['/'] (List.contains_iff_mem.1 hmem))
    exact absurd hchar (Bool.eq_false_iff.1 hother)
  have hslash : char ≠ '/' := by
    rintro rfl
    exact absurd hchar (by decide)
  simp [isBare, hspecial, hslash]

theorem quotedText_append {quote : Char} {left right : List Char} (hleft : QuotedText quote left)
    (hright : QuotedText quote right) : QuotedText quote (left ++ right) := by
  induction hleft with
  | nil => exact hright
  | plain hquote hescape hline _ ih => exact .plain hquote hescape hline ih
  | escaped char _ ih => exact .escaped char ih

theorem hexDigit_plain :
    ∀ value < 16, hexDigit value ≠ '"' ∧ hexDigit value ≠ '\\' ∧ hexDigit value ≠ '\n' := by
  decide

theorem quotedText_escapeChar (char : Char) : QuotedText '"' (escapeChar char) := by
  have hescape := escapeOf_escapeChar char
  generalize escapeChar char = text at hescape ⊢
  cases hescape with
  | itself hplain =>
      simp only [List.mem_cons, not_or] at hplain
      exact .plain hplain.1 hplain.2.1 hplain.2.2.1 .nil
  | short _ => exact .escaped _ .nil
  | code hcontrol =>
      have hhigh := hexDigit_plain (char.toNat / 16) (by omega)
      have hlow := hexDigit_plain (char.toNat % 16) (by omega)
      have hdigits := QuotedText.plain hhigh.1 hhigh.2.1 hhigh.2.2
        (.plain hlow.1 hlow.2.1 hlow.2.2 .nil)
      exact .escaped 'u' (.plain (by decide) (by decide) (by decide)
        (.plain (by decide) (by decide) (by decide) hdigits))

theorem quotedText_escaped (text : List Char) : QuotedText '"' (text.flatMap escapeChar) := by
  induction text with
  | nil => exact .nil
  | cons char rest ih =>
      rw [List.flatMap_cons]
      exact quotedText_append (quotedText_escapeChar char) ih

theorem balanced_quote (text : String) {rest : List Char} (hrest : Balanced .code rest) :
    Balanced .code ((quote text).toList ++ rest) := by
  have htext : (quote text).toList ++ rest
      = '"' :: (text.toList.flatMap escapeChar ++ '"' :: rest) := by
    simp [quote]
  rw [htext]
  exact .quoted (Or.inr rfl) (quotedText_escaped text.toList) hrest

theorem balanced_number {number : Number} (hfinite : number.IsFinite) {rest : List Char}
    (hrest : Balanced .code rest) : Balanced .code (number.render.toList ++ rest) := by
  obtain ⟨sign, numeral, hsign, hnumeral, htext⟩ := Number.render_isNumeral hfinite
  refine balanced_append (List.all_eq_true.2 fun char hchar => isBare_of_isNumeralChar ?_) hrest
  rw [htext, List.mem_append] at hchar
  rcases hchar with hchar | hchar
  · rcases hsign with rfl | rfl
    · exact absurd hchar List.not_mem_nil
    · rw [List.mem_singleton.1 hchar]
      rfl
  · exact hnumeral.isNumeralChar char hchar

theorem balanced_behind {texts : List String} {rest : List Char}
    (hjoined : Balanced .code (joined texts ++ rest)) (hrest : Balanced .code rest) :
    Balanced .code (joinedBehind texts ++ rest) := by
  cases texts with
  | nil => exact hrest
  | cons text others => exact balanced_bare (by decide : isBare ',' = true) hjoined

mutual

/-- **The compact text of a value is balanced**, before any balanced text. -/
theorem balanced_compact (value : Value) (hjson : value.IsJson) {rest : List Char}
    (hrest : Balanced .code rest) : Balanced .code (value.compact.toList ++ rest) := by
  match value, hjson with
  | .null, _ => exact balanced_append (by decide) hrest
  | .boolean true, _ => exact balanced_append (by decide) hrest
  | .boolean false, _ => exact balanced_append (by decide) hrest
  | .number number, hjson => exact balanced_number hjson hrest
  | .text text, _ => exact balanced_quote text hrest
  | .list items, hjson =>
      have hclosing := balanced_bare (by decide : isBare ']' = true) hrest
      have hitems := balanced_items items hjson hclosing
      rw [compact_list, List.cons_append, List.append_assoc]
      exact balanced_bare (by decide) hitems
  | .object fields, hjson =>
      have hfields := balanced_fields fields hjson.2 (.nil .code)
      rw [List.append_nil] at hfields
      rw [compact_object, List.cons_append, List.append_assoc]
      exact .block hfields hrest

theorem balanced_items (items : List Value) (hjson : itemsAreJson items) {rest : List Char}
    (hrest : Balanced .code rest) : Balanced .code (joined (compactItems items) ++ rest) := by
  match items, hjson with
  | [], _ => exact hrest
  | item :: others, ⟨hitem, hothers⟩ =>
      have hbehind := balanced_behind (balanced_items others hothers hrest) hrest
      rw [compactItems, joined_cons, List.append_assoc]
      exact balanced_compact item hitem hbehind

theorem balanced_fields (fields : Fields) (hjson : fieldsAreJson fields) {rest : List Char}
    (hrest : Balanced .code rest) : Balanced .code (joined (compactFields fields) ++ rest) := by
  match fields, hjson with
  | [], _ => exact hrest
  | (key, value) :: others, ⟨hvalue, hothers⟩ =>
      have hbehind := balanced_behind (balanced_fields others hothers hrest) hrest
      have hcompact := balanced_compact value hvalue hbehind
      rw [joined_field, List.append_assoc, List.cons_append, List.append_assoc]
      exact balanced_quote key (balanced_bare (by decide) hcompact)

end

end UtilityClasses.Json
