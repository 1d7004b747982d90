import UtilityClasses.Proofs.JsonText
import UtilityClasses.Proofs.LiteralTokens

/-!
# JSON text is read as a literal

A script that consists of the compact text of a value is read as the literal that spells the value.
The proof follows the value; between two commas each item is read alone.
-/

namespace UtilityClasses.Script

open Json

/-! ### Literals that spell values -/

mutual

/-- An expression is a literal that spells a value. -/
inductive Spells : Value → Expr → Prop where
  | null : Spells .null .null
  | boolean (value : Bool) : Spells (.boolean value) (.boolean value)
  | number (number : Number) (value : Decimal.Double) : Spells (.number number) (.number value)
  | negative (number : Number) (value : Decimal.Double) :
      Spells (.number number) (.dynamic .unary [.number value])
  | text (value : String) : Spells (.text value) (.text (some value))
  | list {items : List Value} {exprs : List Expr} (hitems : SpellsItems items exprs) :
      Spells (.list items) (.list exprs)
  | object {fields : Fields} {members : List Member} (hfields : SpellsFields fields members) :
      Spells (.object fields) (.object members)

inductive SpellsItems : List Value → List Expr → Prop where
  | nil : SpellsItems [] []
  | cons {item : Value} {expr : Expr} {items : List Value} {exprs : List Expr}
      (hitem : Spells item expr) (hitems : SpellsItems items exprs) :
      SpellsItems (item :: items) (expr :: exprs)

inductive SpellsFields : Fields → List Member → Prop where
  | nil : SpellsFields [] []
  | cons (key : String) {value : Value} {expr : Expr} {fields : Fields} {members : List Member}
      (hvalue : Spells value expr) (hfields : SpellsFields fields members) :
      SpellsFields ((key, value) :: fields) (.entry (.text (some key)) expr :: members)

end

variable {α : Type} {inner : Inner} {context : Context} {cursor after middle : Cursor}
  {lineBreak : Bool} {text following : List Char}

/-- Outside types the next token is read as at the start of a script. -/
theorem following_eq (hcontext : context.inType = false) :
    cursor.following context = .behind false false cursor.rest := by
  rw [Cursor.following, Context.singleAngles, hcontext, Bool.false_and]

theorem run_bump_plain (hcontext : context.inType = false) (hfree : cursor.stuck = false) :
    bump context cursor = .ok () (.behind false false cursor.rest) := by
  rw [run_bump _ _ hfree, following_eq hcontext]

/-! ### One token -/

theorem run_passing (expr : Expr) (hcontext : context.inType = false)
    (hfree : cursor.stuck = false) :
    passing expr context cursor = .ok expr (.behind false false cursor.rest) := by
  rw [passing, run_bind, run_bump_plain hcontext hfree]
  rfl

/-- Expressions of one token, which is passed to read them. -/
inductive IsToken : Token → Expr → Prop where
  | text (value : Option String) : IsToken (.text value) (.text value)
  | number (value : Decimal.Double) : IsToken (.number value) (.number value)
  | null : IsToken (.keyword "null" "null") .null
  | true : IsToken (.keyword "true" "true") (.boolean true)
  | false : IsToken (.keyword "false" "false") (.boolean false)

theorem primary_token {token : Token} {expr : Expr} (htoken : IsToken token expr)
    (hcursor : cursor.token = token) :
    primary inner context cursor = passing expr context cursor := by
  cases htoken <;> simp [primary, hcursor, keyword]

theorem run_token {token : Token} {expr : Expr} (htoken : IsToken token expr)
    (hcontext : context.inType = .false) (hcursor : cursor.token = token)
    (hfree : cursor.stuck = .false) :
    primary inner context cursor = .ok expr (.behind .false .false cursor.rest) := by
  rw [primary_token htoken hcursor]
  exact run_passing expr hcontext hfree

theorem IsToken.begins {token : Token} {expr : Expr} (htoken : IsToken token expr) :
    token.BeginsLiteral ∧ expr.IsPlain := by
  cases htoken <;> exact ⟨by constructor, rfl, rfl⟩

theorem assignment_token {token : Token} {expr : Expr} {depth : Nat} (htoken : IsToken token expr)
    (hcontext : context.inType = .false)
    (hcursor : Cursor.behind lineBreak .false text
      = { token, here := text, rest := following, lineBreak })
    (hfollowing : EndsItem following) :
    (partsTo (depth + 4)).assignment context (.behind lineBreak .false text)
      = .ok expr (.behind .false .false following) := by
  rw [hcursor]
  exact assignment_parts htoken.begins.1 rfl (behind_endsItem hfollowing) htoken.begins.2
    (run_token htoken hcontext rfl rfl)

/-! ### Numbers -/

theorem assignment_number {number : Number} (hfinite : number.IsFinite) {depth : Nat}
    (hcontext : context.inType = false) (hfollowing : EndsItem following) :
    ∃ expr, Spells (.number number) expr
      ∧ (partsTo (depth + 5)).assignment context
          (.behind lineBreak false (number.render.toList ++ following))
        = .ok expr (.behind false false following) := by
  obtain ⟨sign, numeral, hsign, hnumeral, htext⟩ := Number.render_isNumeral hfinite
  rcases hsign with rfl | rfl
  · obtain ⟨value, hcursor⟩ := behind_numeral hnumeral lineBreak hfollowing
    rw [htext, List.nil_append]
    exact ⟨_, .number number value, assignment_token (.number value) hcontext hcursor hfollowing⟩
  · obtain ⟨value, hcursor⟩ := behind_numeral hnumeral false hfollowing
    have hhyphen : Cursor.behind lineBreak false ('-' :: (numeral ++ following)) = _ :=
      behind_hyphen hnumeral lineBreak
    rw [htext, List.append_assoc, List.singleton_append]
    refine ⟨_, .negative number value, ?_⟩
    have hends := behind_endsItem hfollowing
    have hunary : (partsTo (depth + 3)).unary context (.behind false false (numeral ++ following))
        = .ok (.number value) (.behind false false following) := by
      rw [hcursor]
      exact unary_parts (.number value) hends ⟨rfl, rfl⟩
        (run_token (.number value) hcontext rfl rfl)
    rw [hhyphen]
    refine assignment_literal .hyphen rfl hends ⟨rfl, rfl⟩ (unary_hyphen rfl rfl ?_)
    rw [following_eq hcontext]
    exact hunary

/-! ### Items between commas -/

/-- One item with the comma behind it, which the last one lacks. -/
def commaItem (close : String) (item : Parse α) : Parse α := do
  let found ← item
  if !(← sees close) then expect ","
  return found

def itemsBefore (close : String) (item : Parse α) (fuel : Nat) : Parse (List α) :=
  repeatWhile (do return !(← sees close)) (commaItem close item) fuel

def IsClosing (char : Char) (close : String) : Prop :=
  (char = ']' ∧ close = "]") ∨ (char = '\x7d' ∧ close = "\x7d")

theorem endsItem_behind {char : Char} {close : String} (hclose : IsClosing char close)
    (texts : List String) (following : List Char) :
    EndsItem (joinedBehind texts ++ char :: following) := by
  cases texts with
  | nil =>
      rcases hclose with ⟨rfl, -⟩ | ⟨rfl, -⟩
      · exact Or.inr ⟨_, following, rfl, by simp⟩
      · exact Or.inr ⟨_, following, rfl, by simp⟩
  | cons text rest => exact Or.inr ⟨',', _, rfl, Or.inl rfl⟩

theorem behind_closing {char : Char} {close : String} (hclose : IsClosing char close)
    (following : List Char) :
    Cursor.behind false false (char :: following)
      = { token := .punctuator close, here := char :: following, rest := following,
          lineBreak := false } := by
  rcases hclose with ⟨rfl, rfl⟩ | ⟨rfl, rfl⟩ <;> rfl

theorem run_expect {spelling : String} (hcontext : context.inType = false)
    (htoken : cursor.token = .punctuator spelling) (hfree : cursor.stuck = false) :
    expect spelling context cursor = .ok () (.behind false false cursor.rest) := by
  rw [expect, run_bind, run_eats _ _ _ hfree, if_pos htoken, following_eq hcontext]
  rfl

/-- Behind an item a comma is passed, if other items follow. -/
theorem commaItem_behind {item : Parse α} {found : α} {char : Char} {close : String}
    {texts : List String} (hclose : IsClosing char close) (hcontext : context.inType = false)
    (hitem : item context cursor
      = .ok found (.behind false false (joinedBehind texts ++ char :: following))) :
    commaItem close item context cursor
      = .ok found (.behind false false (joined texts ++ char :: following)) := by
  rw [commaItem, run_bind, hitem]
  cases texts with
  | nil =>
      have hjoined : joined [] ++ char :: following = char :: following := rfl
      rw [joinedBehind, List.nil_append, hjoined, behind_closing hclose]
      simp
  | cons text rest =>
      have hcomma := behind_mark (by decide : (',', ",") ∈ marks) false
        (joined (text :: rest) ++ char :: following)
      have hother : "," ≠ close := by rcases hclose with ⟨-, rfl⟩ | ⟨-, rfl⟩ <;> decide
      rw [joinedBehind, List.cons_append, hcomma]
      simp [hother, run_expect hcontext]

theorem itemsBefore_closing {item : Parse α} {char : Char} {close : String}
    (hclose : IsClosing char close) (fuel : Nat) :
    itemsBefore close item fuel context (.behind false false (char :: following))
      = .ok [] (.behind false false (char :: following)) := by
  rw [behind_closing hclose, itemsBefore]
  cases fuel with
  | zero => rfl
  | succ fuel => simp [repeatWhile]

theorem itemsBefore_cons {item : Parse α} {found : α} {others : List α} {close : String}
    {fuel : Nat}
    (hopen : cursor.token ≠ .punctuator close)
    (hitem : commaItem close item context cursor = .ok found middle)
    (hothers : itemsBefore close item fuel context middle = .ok others after) :
    itemsBefore close item (fuel + 1) context cursor = .ok (found :: others) after := by
  have hmore : (!(cursor.token == .punctuator close)) = true := by simp [hopen]
  rw [itemsBefore] at hothers ⊢
  rw [repeatWhile, run_bind, run_bind, run_sees]
  simp only [run_pure, hmore, if_true, run_bind, hitem, hothers]

theorem run_closedList {item : Parse α} {items : List α} {char : Char} {close : String}
    (hclose : IsClosing char close) (hcontext : context.inType = false)
    (hitems : itemsBefore close item (cursor.here.length + 1) context cursor
      = .ok items (.behind false false (char :: following))) :
    closedList close item context cursor = .ok items (.behind false false following) := by
  have hlist : commaList (sees close) item context cursor
      = .ok items (.behind false false (char :: following)) := by
    rw [commaList, manyWhile, run_bind, run_get]
    exact hitems
  rw [closedList, run_bind, hlist, behind_closing hclose]
  simp [run_expect hcontext]

/-! ### Items and members -/

theorem Token.BeginsItem.ne {token : Token} {spelling : String} (hbegins : token.BeginsItem)
    (hother : spelling ∉ ["[", "\x7b", "-"]) : token ≠ .punctuator spelling := by
  simp only [List.mem_cons, List.not_mem_nil, or_false, not_or] at hother
  cases hbegins with
  | literal hbegins => exact hbegins.ne (by simp [hother])
  | hyphen => simpa using Ne.symm hother.2.2

/-- The text of a value begins with a token of its own, before which nothing is passed. -/
theorem begins_compact {value : Value} (hjson : value.IsJson) (lineBreak : Bool)
    (hfollowing : EndsItem following) :
    (Cursor.behind lineBreak false (value.compact.toList ++ following)).token.BeginsItem
      ∧ (Cursor.behind lineBreak false (value.compact.toList ++ following)).here
        = value.compact.toList ++ following := by
  cases value with
  | null =>
      rw [Value.compact, behind_word (by decide) lineBreak hfollowing]
      exact ⟨.literal .null, rfl⟩
  | boolean value =>
      cases value with
      | true =>
          rw [Value.compact, behind_word (by decide) lineBreak hfollowing]
          exact ⟨.literal .true, rfl⟩
      | false =>
          rw [Value.compact, behind_word (by decide) lineBreak hfollowing]
          exact ⟨.literal .false, rfl⟩
  | number number =>
      obtain ⟨sign, numeral, hsign, hnumeral, htext⟩ := Number.render_isNumeral hjson
      rw [Value.compact, htext, List.append_assoc]
      rcases hsign with rfl | rfl
      · obtain ⟨value, hcursor⟩ := behind_numeral hnumeral lineBreak hfollowing
        rw [List.nil_append, hcursor]
        exact ⟨.literal (.number value), rfl⟩
      · rw [List.singleton_append, behind_hyphen hnumeral]
        exact ⟨.hyphen, rfl⟩
  | text value =>
      rw [Value.compact, behind_quote]
      exact ⟨.literal (.text _), rfl⟩
  | list items =>
      rw [compact_list, List.cons_append, behind_mark (by decide : ('[', "[") ∈ marks)]
      exact ⟨.literal .bracket, rfl⟩
  | object fields =>
      rw [compact_object, List.cons_append, behind_mark (by decide : ('\x7b', "\x7b") ∈ marks)]
      exact ⟨.literal .brace, rfl⟩

theorem run_listItem {expr : Expr} (hbegins : cursor.token.BeginsItem)
    (hvalue : inner.assignment { context with allowIn := true } cursor = .ok expr after) :
    listItem inner context cursor = .ok expr after := by
  have hcomma : cursor.token ≠ .punctuator "," := hbegins.ne (by decide)
  have hspread : cursor.token ≠ .punctuator "..." := hbegins.ne (by decide)
  simp [listItem, spreadable, eats, allowingIn, hcomma, hspread, hvalue]

theorem run_member {expr : Expr} (key : String) {rest : List Char}
    (hcontext : context.inType = false)
    (hvalue : inner.assignment { context with allowIn := true } (.behind false false rest)
      = .ok expr after) :
    member inner context (.behind false false ((quote key).toList ++ ':' :: rest))
      = .ok (.entry (.text (some key)) expr) after := by
  have hcolon := behind_mark (by decide : (':', ":") ∈ marks) false rest
  have hkey : memberKey inner context (.behind false false ((quote key).toList ++ ':' :: rest))
      = .ok (.text (some key)) (.behind false false (':' :: rest)) := by
    simp [memberKey, behind_quote, run_bump_plain hcontext]
  have hkeyed : keyedValue inner (.text (some key)) context (.behind false false (':' :: rest))
      = .ok (.entry (.text (some key)) expr) after := by
    simp [keyedValue, continuesMember, hcolon, run_eats, following_eq hcontext, allowingIn, hvalue]
  rw [behind_quote] at hkey ⊢
  simp [member, eats, eatsParameterModifier, Token.isOneOfKeywords, hkey, hkeyed]

/-! ### Values -/

theorem run_bump_mark {char : Char} {spelling : String} (hmark : (char, spelling) ∈ marks)
    (hcontext : context.inType = false) (lineBreak : Bool) (rest : List Char) :
    bump context (.behind lineBreak false (char :: rest)) = .ok () (.behind false false rest) := by
  rw [behind_mark hmark]
  exact run_bump_plain hcontext rfl

/-- Behind an opening bracket stand the items and the closing one. -/
theorem primary_list {exprs : List Expr} {rest : List Char} (hcontext : context.inType = false)
    (hitems : closedList "]" (listItem inner) { context with expectColon := false }
      (.behind false false rest) = .ok exprs after) :
    primary inner context (.behind lineBreak false ('[' :: rest)) = .ok (.list exprs) after := by
  have hmark : ('[', "[") ∈ marks := by decide
  have hinside : ({ context with expectColon := false } : Context).inType = false := hcontext
  have hbump := run_bump_mark hmark hinside lineBreak rest
  rw [behind_mark hmark] at hbump ⊢
  simp [primary, list, awaitingNoColon, hbump, hitems]

theorem primary_object {members : List Member} {rest : List Char}
    (hcontext : context.inType = false)
    (hmembers : closedList "\x7d" (member inner) { context with expectColon := false }
      (.behind false false rest) = .ok members after) :
    primary inner context (.behind lineBreak false ('\x7b' :: rest))
      = .ok (.object members) after := by
  have hmark : ('\x7b', "\x7b") ∈ marks := by decide
  have hinside : ({ context with expectColon := false } : Context).inType = false := hcontext
  have hbump := run_bump_mark hmark hinside lineBreak rest
  rw [behind_mark hmark] at hbump ⊢
  simp [primary, object, awaitingNoColon, hbump, hmembers]

theorem length_compactItems (items : List Value) : (compactItems items).length = items.length := by
  induction items with
  | nil => rfl
  | cons item rest ih => rw [compactItems, List.length_cons, List.length_cons, ih]

theorem length_compactFields (fields : Fields) : (compactFields fields).length = fields.length := by
  induction fields with
  | nil => rfl
  | cons field rest ih =>
      obtain ⟨key, value⟩ := field
      rw [compactFields, List.length_cons, List.length_cons, ih]

theorem length_le_joined (texts : List String) : texts.length ≤ (joined texts).length + 1 := by
  induction texts with
  | nil => exact Nat.zero_le 1
  | cons text rest ih =>
      rw [joined_cons, List.length_append]
      cases rest with
      | nil => exact Nat.le_add_left 1 _
      | cons next rest =>
          rw [List.length_cons, joinedBehind, List.length_cons (a := ',')]
          omega

theorem count_items (items : List Value) (hjson : itemsAreJson items) (following : List Char) :
    items.length
      ≤ (Cursor.behind false false (joined (compactItems items) ++ ']' :: following)).here.length
        + 1 := by
  cases items with
  | nil => exact Nat.zero_le _
  | cons item others =>
      have hle := length_le_joined (compactItems (item :: others))
      have hends := endsItem_behind (Or.inl ⟨rfl, rfl⟩) (compactItems others) following
      rw [length_compactItems, compactItems, joined_cons] at hle
      rw [compactItems, joined_cons, List.append_assoc, (begins_compact hjson.1 false hends).2,
        ← List.append_assoc, List.length_append]
      omega

theorem count_fields (fields : Fields) (following : List Char) :
    fields.length
      ≤ (Cursor.behind false false
          (joined (compactFields fields) ++ '\x7d' :: following)).here.length
        + 1 := by
  cases fields with
  | nil => exact Nat.zero_le _
  | cons field others =>
      obtain ⟨key, value⟩ := field
      have hle := length_le_joined (compactFields ((key, value) :: others))
      rw [length_compactFields, joined_field] at hle
      rw [joined_field, List.append_assoc, behind_quote, ← List.append_assoc, List.length_append]
      omega

theorem compact_pos {value : Value} (hjson : value.IsJson) :
    0 < value.compact.toList.length := by
  cases value with
  | null => decide
  | boolean value => cases value <;> decide
  | number number =>
      obtain ⟨sign, numeral, _, hnumeral, htext⟩ := Number.render_isNumeral hjson
      obtain ⟨digit, rest, rfl, _⟩ := exists_digit hnumeral
      rw [Value.compact, htext, List.length_append, List.length_cons]
      omega
  | text text => simp [Value.compact, quote]
  | list items => simp [compact_list]
  | object fields => simp [compact_object]

/-- The text of a bracketed value pays for four requests and for what stands between the brackets.
-/
theorem depth_inside {length depth : Nat} (hdepth : partsPerToken * (length + 2) ≤ depth + 5) :
    partsPerToken * length ≤ depth + 1 := by
  rw [partsPerToken] at hdepth ⊢
  omega

theorem depth_item {first others depth : Nat} (hdepth : partsPerToken * (first + others) ≤ depth) :
    partsPerToken * first ≤ depth ∧ partsPerToken * others ≤ depth := by
  rw [partsPerToken] at hdepth ⊢
  omega

theorem length_joined_le (texts : List String) :
    (joined texts).length ≤ (joinedBehind texts).length := by
  cases texts with
  | nil => exact Nat.le_refl 0
  | cons text rest => exact Nat.le_succ _

mutual

/-- **The compact text of a value is read as a literal that spells it.** Each character of the text
pays for the parts that are asked for at it. -/
theorem assignment_compact (value : Value) (hjson : value.IsJson) {depth : Nat}
    (hdepth : partsPerToken * value.compact.toList.length ≤ depth) {context : Context}
    (hcontext : context.inType = false) (lineBreak : Bool) {following : List Char}
    (hfollowing : EndsItem following) :
    ∃ expr, Spells value expr
      ∧ (partsTo depth).assignment context
          (.behind lineBreak false (value.compact.toList ++ following))
        = .ok expr (.behind false false following) := by
  have hpos := compact_pos hjson
  obtain ⟨depth, rfl⟩ : ∃ below, depth = below + 5 :=
    ⟨depth - 5, by rw [partsPerToken] at hdepth; omega⟩
  cases value with
  | null =>
      exact ⟨_, .null, assignment_token .null hcontext
        (behind_word (by decide) lineBreak hfollowing) hfollowing⟩
  | boolean value =>
      cases value with
      | true =>
          exact ⟨_, .boolean true, assignment_token .true hcontext
            (behind_word (by decide) lineBreak hfollowing) hfollowing⟩
      | false =>
          exact ⟨_, .boolean false, assignment_token .false hcontext
            (behind_word (by decide) lineBreak hfollowing) hfollowing⟩
  | number number => exact assignment_number hjson hcontext hfollowing
  | text text =>
      exact ⟨_, .text text, assignment_token (.text (some text)) hcontext
        (behind_quote text lineBreak following) hfollowing⟩
  | list items =>
      have hclose : IsClosing ']' "]" := Or.inl ⟨rfl, rfl⟩
      have hinside : ({ context with wholeAngles := true, expectColon := false } : Context).inType
          = false := hcontext
      rw [compact_list, List.length_cons, List.length_append] at hdepth
      obtain ⟨exprs, hspells, hread⟩ := itemsBefore_compact items hjson (depth_inside hdepth)
        (count_items items hjson following) hinside following
      refine ⟨.list exprs, .list hspells, ?_⟩
      rw [compact_list, List.cons_append, List.append_assoc]
      exact assignment_parts .bracket rfl (behind_endsItem hfollowing) ⟨rfl, rfl⟩
        (primary_list hcontext (run_closedList hclose hinside hread))
  | object fields =>
      have hclose : IsClosing '\x7d' "\x7d" := Or.inr ⟨rfl, rfl⟩
      have hinside : ({ context with wholeAngles := true, expectColon := false } : Context).inType
          = false := hcontext
      rw [compact_object, List.length_cons, List.length_append] at hdepth
      obtain ⟨members, hspells, hread⟩ := membersBefore_compact fields hjson.2 (depth_inside hdepth)
        (count_fields fields following) hinside following
      refine ⟨.object members, .object hspells, ?_⟩
      rw [compact_object, List.cons_append, List.append_assoc]
      exact assignment_parts .brace rfl (behind_endsItem hfollowing) ⟨rfl, rfl⟩
        (primary_object hcontext (run_closedList hclose hinside hread))

theorem itemsBefore_compact (items : List Value) (hjson : itemsAreJson items) {depth fuel : Nat}
    (hdepth : partsPerToken * (joined (compactItems items)).length ≤ depth)
    (hfuel : items.length ≤ fuel) {context : Context} (hcontext : context.inType = false)
    (following : List Char) :
    ∃ exprs, SpellsItems items exprs
      ∧ itemsBefore "]" (listItem (partsTo depth)) fuel context
          (.behind false false (joined (compactItems items) ++ ']' :: following))
        = .ok exprs (.behind false false (']' :: following)) := by
  have hclose : IsClosing ']' "]" := Or.inl ⟨rfl, rfl⟩
  match items, hjson with
  | [], _ => exact ⟨[], .nil, itemsBefore_closing hclose fuel⟩
  | item :: others, ⟨hitem, hothers⟩ =>
      obtain ⟨fuel, rfl⟩ : ∃ below, fuel = below + 1 :=
        ⟨fuel - 1, by rw [List.length_cons] at hfuel; omega⟩
      have hends := endsItem_behind hclose (compactItems others) following
      have hbegins := begins_compact hitem false hends
      rw [compactItems, joined_cons, List.length_append] at hdepth
      obtain ⟨hdepthItem, hdepthBehind⟩ := depth_item hdepth
      have hdepthOthers := Nat.le_trans
        (Nat.mul_le_mul_left partsPerToken (length_joined_le (compactItems others))) hdepthBehind
      have hinside : ({ context with allowIn := true } : Context).inType = false := hcontext
      obtain ⟨expr, hspells, hread⟩ := assignment_compact item hitem hdepthItem hinside false hends
      obtain ⟨exprs, hspellsOthers, hreadOthers⟩ := itemsBefore_compact others hothers
        hdepthOthers (Nat.le_of_succ_le_succ hfuel) hcontext following
      refine ⟨expr :: exprs, .cons hspells hspellsOthers, ?_⟩
      rw [compactItems, joined_cons, List.append_assoc]
      have hitem := commaItem_behind hclose hcontext (run_listItem hbegins.1 hread)
      exact itemsBefore_cons (hbegins.1.ne (by decide)) hitem hreadOthers

theorem membersBefore_compact (fields : Fields) (hjson : fieldsAreJson fields) {depth fuel : Nat}
    (hdepth : partsPerToken * (joined (compactFields fields)).length ≤ depth)
    (hfuel : fields.length ≤ fuel) {context : Context} (hcontext : context.inType = false)
    (following : List Char) :
    ∃ members, SpellsFields fields members
      ∧ itemsBefore "\x7d" (member (partsTo depth)) fuel context
          (.behind false false (joined (compactFields fields) ++ '\x7d' :: following))
        = .ok members (.behind false false ('\x7d' :: following)) := by
  have hclose : IsClosing '\x7d' "\x7d" := Or.inr ⟨rfl, rfl⟩
  match fields, hjson with
  | [], _ => exact ⟨[], .nil, itemsBefore_closing hclose fuel⟩
  | (key, value) :: others, ⟨hvalue, hothers⟩ =>
      obtain ⟨fuel, rfl⟩ : ∃ below, fuel = below + 1 :=
        ⟨fuel - 1, by rw [List.length_cons] at hfuel; omega⟩
      have hends := endsItem_behind hclose (compactFields others) following
      have hinside : ({ context with allowIn := true } : Context).inType = false := hcontext
      rw [joined_field, List.length_append, List.length_cons, List.length_append] at hdepth
      obtain ⟨hdepthValue, hdepthBehind⟩ := depth_item (depth_item (depth_item hdepth).2).1
      have hdepthOthers := Nat.le_trans
        (Nat.mul_le_mul_left partsPerToken (length_joined_le (compactFields others))) hdepthBehind
      obtain ⟨expr, hspells, hread⟩ :=
        assignment_compact value hvalue hdepthValue hinside false hends
      obtain ⟨members, hspellsOthers, hreadOthers⟩ := membersBefore_compact others hothers
        hdepthOthers (Nat.le_of_succ_le_succ hfuel) hcontext following
      refine ⟨.entry (.text (some key)) expr :: members, .cons key hspells hspellsOthers, ?_⟩
      rw [joined_field, List.append_assoc, List.cons_append, List.append_assoc]
      have hmember := commaItem_behind hclose hcontext (run_member key hcontext hread)
      have hopen (rest : List Char) : (Cursor.behind false false ((quote key).toList ++ rest)).token
          ≠ .punctuator "\x7d" := by
        rw [behind_quote]
        exact Token.noConfusion
      exact itemsBefore_cons (hopen _) hmember hreadOthers

end

theorem start_compact {value : Value} (hjson : value.IsJson) (hfollowing : EndsItem following) :
    Cursor.start (value.compact.toList ++ following)
      = .behind true false (value.compact.toList ++ following) := by
  have hbegins := (begins_compact hjson true hfollowing).1
  unfold Cursor.start
  split
  · next rest htext =>
    rw [htext] at hbegins
    exact absurd rfl (hbegins.ne (by decide : "#" ∉ _))
  · rfl

/-- **A script that is the compact text of a value is the literal that spells the value.** -/
theorem parseExpression_compact {value : Value} (hjson : value.IsJson) :
    ∃ expr, Spells value expr ∧ parseExpression value.compact = .ok expr := by
  have hends : EndsItem [] := Or.inl rfl
  have hcontext : Context.outermost.inType = false := rfl
  have hdepth : partsPerToken * value.compact.toList.length
      ≤ partsPerToken * (value.compact.toList.length + 1) :=
    Nat.mul_le_mul_left _ (Nat.le_succ _)
  have hstart := start_compact hjson hends
  obtain ⟨expr, hspells, hread⟩ := assignment_compact value hjson hdepth hcontext true hends
  rw [List.append_nil] at hread hstart
  refine ⟨expr, hspells, ?_⟩
  have hexpression : expression (partsTo (partsPerToken * (value.compact.toList.length + 1)))
      .outermost (.start value.compact.toList) = .ok expr (.behind false false []) := by
    rw [hstart, expression, run_bind, hread]
    rfl
  rw [parseExpression]
  simp only [ReaderT.run, hexpression]

end UtilityClasses.Script
