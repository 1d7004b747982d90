import UtilityClasses.Evaluation
import UtilityClasses.Proofs.ArgumentLists

/-!
# Arguments behind the first

An argument list is read as a sequence. What stands behind the first argument never changes the
value of the call, but a sequence needs an expression behind each of its commas: where a comma is
the last token of the list, or what follows is spread out, the call has no value.
-/

namespace UtilityClasses

open Json (Value itemsAreJson)
open Relation (ReflTransGen)
open Script
open Text

/-! ### Calls -/

/-- Behind the name and the opening parenthesis only one parenthesis is taken from the end. -/
theorem argumentText_behind {call name : String} {list : List Char} {last : Char}
    (hcall : call.toList = name.toList ++ '(' :: (list ++ [last])) (hlast : isBlank last = false) :
    argumentText call name = String.ofList (dropTrailing ')' (list ++ [last])) := by
  have hname : dropLeading name.toList call.toList = '(' :: (list ++ [last]) := by
    simp [dropLeading, hcall]
  have hparen : isBlank '(' = false := by decide
  have hopening : dropLeading ['('] ('(' :: (list ++ [last])) = list ++ [last] := rfl
  have hend : trimEnd (list ++ [last]) = list ++ [last] := by
    simp [trimEnd, hlast]
  simp [argumentText, hname, trimStart, hparen, hopening, hend]

theorem argumentText_call (name list : String) :
    argumentText (name ++ "(" ++ list ++ ")") name = list := by
  have hcall : (name ++ "(" ++ list ++ ")").toList
      = name.toList ++ '(' :: (list.toList ++ [')']) := by
    simp
  have hclose : isBlank ')' = false := by decide
  rw [argumentText_behind hcall hclose]
  simp [dropTrailing]

variable {argument continuation list : String} {expr : Expr} {ending after last : Cursor}

theorem firstOf_single (hsingle : expr.IsSingle) : firstOf expr = expr := by
  cases expr with
  | sequence first others => exact hsingle.elim
  | _ => rfl

/-- However a list is read, its first part is its first argument. -/
theorem firstOf_parseExpression (hfirst : FirstArgument list expr after) {whole : Expr}
    (hwhole : parseExpression list = .ok whole) : firstOf whole = expr := by
  rcases hfirst.parseExpression_leads hwhole with rfl | ⟨others, rfl⟩
  · exact firstOf_single hfirst.isSingle
  · rfl

/-- **What stands behind the first argument never changes the value of a call.** -/
theorem evaluateCall_of_firstArgument {name : String} {value : Value}
    (hfirst : FirstArgument list expr after)
    (hvalue : evaluateCall (name ++ "(" ++ list ++ ")") name = .ok value) :
    value = reduce expr := by
  rw [evaluateCall, argumentText_call] at hvalue
  cases hparse : parseExpression list with
  | error cause =>
      rw [hparse] at hvalue
      cases hvalue
  | ok whole =>
      rw [hparse] at hvalue
      cases hvalue
      exact congrArg reduce (firstOf_parseExpression hfirst hparse)

theorem evaluateCall_closed (name : String) (hfirst : FirstArgument list expr after)
    (hpasses : ReflTransGen (PassesArgument (readersOf list)) after last)
    (hend : last.token ≠ .punctuator ",") :
    evaluateCall (name ++ "(" ++ list ++ ")") name = .ok (reduce expr) := by
  obtain ⟨whole, hwhole⟩ := hfirst.parseExpression_closed hpasses hend
  rw [evaluateCall, argumentText_call, hwhole, Except.map, firstOf_parseExpression hfirst hwhole]

theorem evaluateCall_refused (name : String) (hfirst : FirstArgument list expr after)
    (hpasses : ReflTransGen (PassesArgument (readersOf list)) after last) (hcomma : AtComma last)
    (hnone : (last.following .outermost).token.BeginsNoExpression) :
    evaluateCall (name ++ "(" ++ list ++ ")") name = .error .expressionExpected := by
  rw [evaluateCall, argumentText_call, hfirst.parseExpression_refused hpasses hcomma hnone,
    Except.map]

/-- **A call is worth its first argument**, alone and in front of others, as long as no comma is the
last one and no other argument is spread out; it has no value otherwise. -/
theorem evaluateCall_furtherArguments (name : String)
    (hargument : FirstArgument argument expr ending) (hending : ending.token ≠ .punctuator ",")
    (hfirst : FirstArgument (argument ++ continuation) expr after)
    (hpasses : ReflTransGen (PassesArgument (readersOf (argument ++ continuation))) after last) :
    evaluateCall (name ++ "(" ++ argument ++ ")") name = .ok (reduce expr)
      ∧ (last.token ≠ .punctuator "," →
          evaluateCall (name ++ "(" ++ (argument ++ continuation) ++ ")") name
            = .ok (reduce expr))
      ∧ (AtComma last → (last.following .outermost).token.BeginsNoExpression →
          evaluateCall (name ++ "(" ++ (argument ++ continuation) ++ ")") name
            = .error .expressionExpected) :=
  ⟨evaluateCall_closed name hargument .refl hending, evaluateCall_closed name hfirst hpasses,
    evaluateCall_refused name hfirst hpasses⟩

set_option maxRecDepth 4000 in
/-- Behind an object and a name stands a comma, and the list ends. -/
theorem evaluateCall_furtherArguments_up_to_comma :
    let argument := "\x7ba:'b'\x7d"
    let continuation := ", c,"
    let expr : Expr := .object [.entry (.identifier "a") (.text (some "b"))]
    let after : Cursor := .behind false false [',', ' ', 'c', ',']
    let last : Cursor := .behind false false [',']
    FirstArgument argument expr (.behind false false [])
      ∧ FirstArgument (argument ++ continuation) expr after
      ∧ PassesArgument (readersOf (argument ++ continuation)) after last
      ∧ evaluateCall ("tc" ++ "(" ++ argument ++ ")") "tc" = .ok (.object [("a", .text "b")])
      ∧ evaluateCall ("tc" ++ "(" ++ (argument ++ continuation) ++ ")") "tc"
        = .error .expressionExpected := by
  intro argument continuation expr after last
  have hargument : FirstArgument argument expr (.behind false false []) := by
    unfold argument
    rfl
  have hfirst : FirstArgument (argument ++ continuation) expr after := by
    unfold argument continuation
    rfl
  have hpasses : PassesArgument (readersOf (argument ++ continuation)) after last := by
    unfold argument continuation
    exact ⟨⟨rfl, rfl⟩, by decide, .identifier "c", rfl⟩
  have hending : (Cursor.behind false false []).token ≠ .punctuator "," := by decide
  obtain ⟨halone, -, hrefused⟩ :=
    evaluateCall_furtherArguments "tc" hargument hending hfirst (.single hpasses)
  exact ⟨hargument, hfirst, hpasses, halone, hrefused ⟨rfl, rfl⟩ .eof⟩

set_option maxRecDepth 4000 in
/-- Neither a trailing comma nor an argument that is spread out leaves a call its value. -/
theorem trailing_comma_refused :
    let argument := "\x7bbase:\x7bstatic:'a'\x7d\x7d"
    evaluateCall ("tc" ++ "(" ++ argument ++ ")") "tc"
        = .ok (.object [("base", .object [("static", .text "a")])])
      ∧ evaluateCall ("tc" ++ "(" ++ (argument ++ ",") ++ ")") "tc" = .error .expressionExpected
      ∧ evaluateCall ("tc" ++ "(" ++ (argument ++ ", ...x") ++ ")") "tc"
        = .error .expressionExpected := by
  intro argument
  let style : Expr :=
    .object [.entry (.identifier "base") (.object [.entry (.identifier "static") (.text "a")])]
  have hargument : FirstArgument argument style (.behind false false []) := by
    unfold argument
    rfl
  have hcomma : FirstArgument (argument ++ ",") style (.behind false false [',']) := by
    unfold argument
    rfl
  have hspread : FirstArgument (argument ++ ", ...x") style
      (.behind false false [',', ' ', '.', '.', '.', 'x']) := by
    unfold argument
    rfl
  exact ⟨evaluateCall_closed "tc" hargument .refl (by decide),
    evaluateCall_refused "tc" hcomma .refl ⟨rfl, rfl⟩ .eof,
    evaluateCall_refused "tc" hspread .refl ⟨rfl, rfl⟩ .spread⟩

/-! ### Literals -/

variable {others : List Value} {value : Value}

/-- A call with literals for its arguments is worth the first of them. -/
theorem evaluateCall_literals (name : String) (hvalues : itemsAreJson (value :: others)) :
    ∃ expr, Spells value expr
      ∧ evaluateCall (name ++ "(" ++ literalList (value :: others) ++ ")") name
        = .ok (reduce expr) := by
  have hends : EndsItem "".toList := Or.inl rfl
  obtain ⟨expr, after, hspells, hfirst, hpasses⟩ := first_literals hvalues hends
  rw [String.append_empty] at hfirst hpasses
  exact ⟨expr, hspells, evaluateCall_closed name hfirst hpasses (by decide)⟩

/-- It has no value when the list ends behind a comma, or when another argument is spread out. -/
theorem evaluateCall_literals_refused (name rest : String)
    (hvalues : itemsAreJson (value :: others))
    (hrest : (Cursor.behind false false rest.toList).token.BeginsNoExpression) :
    evaluateCall (name ++ "(" ++ (literalList (value :: others) ++ ("," ++ rest)) ++ ")") name
      = .error .expressionExpected := by
  obtain ⟨expr, after, last, -, hfirst, hpasses, hcomma, hbehind⟩ :=
    first_literals_comma rest hvalues
  rw [← hbehind] at hrest
  exact evaluateCall_refused name hfirst hpasses hcomma hrest

end UtilityClasses
