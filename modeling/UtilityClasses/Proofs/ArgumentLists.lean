import Mathlib.Logic.Relation
import UtilityClasses.Proofs.LiteralReading
import UtilityClasses.Proofs.SingleExpressions

/-!
# What argument lists are read as

The argument list of a call is read by `parseExpression`. The values of calls rest on three facts
about it and on no others:

* **The leading expression.** A list is read as the expression it begins with, or as a sequence that
  begins with this one (`FirstArgument.parseExpression_leads`), which is no sequence itself
  (`FirstArgument.isSingle`). Nothing else that stands behind it is read.
* **An expression behind each comma.** A list whose commas all have one is read
  (`FirstArgument.parseExpression_closed`); a list with a comma that nothing or a spread follows is
  refused (`FirstArgument.parseExpression_refused`).
* **Literals.** The compact text of a value is read as a literal that spells it
  (`parseExpression_compact`), and so is the first of several (`first_literals`), whose commas all
  have an expression behind them.
-/

namespace UtilityClasses.Script

open Json (Value joined joinedBehind joined_cons compactItems itemsAreJson)
open Relation (ReflTransGen)

/-! ### Where no argument begins -/

/-- Tokens that may follow a comma in an argument list without beginning an expression. -/
inductive Token.BeginsNoExpression : Token → Prop where
  | eof : BeginsNoExpression .eof
  | spread : BeginsNoExpression (.punctuator "...")

variable {inner : Inner} {context : Context} {cursor after middle last : Cursor} {expr : Expr}

theorem primary_refused (hnone : cursor.token.BeginsNoExpression) :
    primary inner context cursor = .error .expressionExpected cursor := by
  obtain ⟨token, here, rest, lineBreak, arrowStart, stuck⟩ := cursor
  cases hnone <;> rfl

theorem creation_refused {reading : Parse Expr} (hnone : cursor.token.BeginsNoExpression)
    (hreading : reading { context with wholeAngles := true } cursor
      = .error .expressionExpected cursor) :
    creation inner reading context cursor = .error .expressionExpected cursor := by
  obtain ⟨token, here, rest, lineBreak, arrowStart, stuck⟩ := cursor
  cases hnone <;> simp [creation, withWholeAngles, eatsWord, Token.isKeyword, hreading]

theorem access_refused (hnone : cursor.token.BeginsNoExpression)
    (hcreation : inner.creation context cursor = .error .expressionExpected cursor) :
    access inner context cursor = .error .expressionExpected cursor := by
  obtain ⟨token, here, rest, lineBreak, arrowStart, stuck⟩ := cursor
  cases hnone <;> simp [access, startsTag, eatsWord, Token.isKeyword, hcreation]

theorem unary_refused (hnone : cursor.token.BeginsNoExpression)
    (haccess : inner.access context cursor = .error .expressionExpected cursor) :
    unary inner context cursor = .error .expressionExpected cursor := by
  obtain ⟨token, here, rest, lineBreak, arrowStart, stuck⟩ := cursor
  cases hnone <;>
    simp [unary, eatsWord, Token.isKeyword, Token.isOneOf, Token.isOneOfKeywords, haccess]

theorem leftOperand_refused (hnone : cursor.token.BeginsNoExpression)
    (hunary : inner.unary context cursor = .error .expressionExpected cursor) :
    leftOperand inner context cursor = .error .expressionExpected cursor := by
  rw [leftOperand_eq, run_tryCatch, hunary]
  obtain ⟨token, here, rest, lineBreak, arrowStart, stuck⟩ := cursor
  cases hnone <;> rfl

/-- Before an expression is asked for, it is noted that no arrow function begins. -/
theorem starts_refused (context : Context) (hnone : cursor.token.BeginsNoExpression) :
    (refuseUnreadable context cursor = .ok () cursor
        ∧ markArrowStart context cursor = .ok () { cursor with arrowStart := false })
      ∧ cursor.token ≠ .punctuator "<" ∧ cursor.token.isKeyword "yield" = false := by
  obtain ⟨token, here, rest, lineBreak, arrowStart, stuck⟩ := cursor
  cases hnone <;> exact ⟨⟨rfl, rfl⟩, by simp, rfl⟩

theorem assignment_refused {depth : Nat} (hnone : cursor.token.BeginsNoExpression) :
    (partsTo (depth + 4)).assignment context cursor
      = .error .expressionExpected { cursor with arrowStart := false } := by
  have hmarked : ({ cursor with arrowStart := false } : Cursor).token.BeginsNoExpression := hnone
  have hleft : leftOperand (partsTo (depth + 3)) context { cursor with arrowStart := false }
      = .error .expressionExpected { cursor with arrowStart := false } :=
    leftOperand_refused hmarked <| unary_refused hmarked <| access_refused hmarked <|
      creation_refused hmarked <| primary_refused hmarked
  obtain ⟨⟨hrefuse, hmark⟩, htag, hyield⟩ := starts_refused context hnone
  change assignment (partsTo (depth + 3)) context cursor = _
  simp [assignment, htag, plainAssignment, hyield, hrefuse, hmark, conditional, binary, hleft]

/-! ### From comma to comma -/

/-- A comma is next and can be passed. -/
def AtComma (cursor : Cursor) : Prop := cursor.token = .punctuator "," ∧ cursor.stuck = false

/-- A comma and an argument behind it are passed, which takes at least one character. -/
def PassesArgument (inner : Inner) (cursor after : Cursor) : Prop :=
  AtComma cursor ∧ after.here.length < cursor.here.length
    ∧ ∃ expr, inner.assignment .outermost (cursor.following .outermost) = .ok expr after

theorem run_comma (hcomma : AtComma cursor) :
    eats "," context cursor = .ok true (cursor.following context) := by
  rw [run_eats _ _ _ hcomma.2, if_pos hcomma.1]

theorem run_noComma (hend : cursor.token ≠ .punctuator ",") :
    eats "," context cursor = .ok false cursor := by
  simp [eats, hend]

/-- One argument more, whatever is made of those behind it. -/
theorem repeatWhile_passes (fuel : Nat) (hpasses : PassesArgument inner cursor middle) :
    ∃ expr, repeatWhile (eats ",") inner.assignment (fuel + 1) .outermost cursor
      = ((expr :: ·) <$> repeatWhile (eats ",") inner.assignment fuel) .outermost middle := by
  obtain ⟨hcomma, -, expr, hread⟩ := hpasses
  refine ⟨expr, ?_⟩
  simp only [repeatWhile, run_bind, run_comma hcomma, if_true, hread, run_map]
  rfl

theorem repeatWhile_closed (hend : last.token ≠ .punctuator ",")
    (hpasses : ReflTransGen (PassesArgument inner) cursor last) {fuel : Nat}
    (hfuel : cursor.here.length < fuel) :
    ∃ exprs, repeatWhile (eats ",") inner.assignment fuel .outermost cursor = .ok exprs last := by
  induction hpasses using ReflTransGen.head_induction_on generalizing fuel with
  | refl =>
      obtain ⟨fuel, rfl⟩ : ∃ below, fuel = below + 1 := ⟨fuel - 1, by omega⟩
      exact ⟨[], by simp [repeatWhile, run_noComma hend]⟩
  | @head cursor middle hstep _ ih =>
      obtain ⟨fuel, rfl⟩ : ∃ below, fuel = below + 1 := ⟨fuel - 1, by omega⟩
      have hless : middle.here.length < fuel :=
        Nat.lt_of_lt_of_le hstep.2.1 (Nat.le_of_lt_succ hfuel)
      obtain ⟨exprs, hexprs⟩ := ih hless
      obtain ⟨expr, hrun⟩ := repeatWhile_passes fuel hstep
      exact ⟨expr :: exprs, by rw [hrun, run_map, hexprs]⟩

theorem repeatWhile_refused {cause : SyntaxError} (hcomma : AtComma last)
    (hrefused : ∃ after, inner.assignment .outermost (last.following .outermost)
      = .error cause after)
    (hpasses : ReflTransGen (PassesArgument inner) cursor last) {fuel : Nat}
    (hfuel : cursor.here.length < fuel) :
    ∃ after, repeatWhile (eats ",") inner.assignment fuel .outermost cursor
      = .error cause after := by
  induction hpasses using ReflTransGen.head_induction_on generalizing fuel with
  | refl =>
      obtain ⟨fuel, rfl⟩ : ∃ below, fuel = below + 1 := ⟨fuel - 1, by omega⟩
      obtain ⟨after, hafter⟩ := hrefused
      exact ⟨after, by simp [repeatWhile, run_comma hcomma, hafter]⟩
  | @head cursor middle hstep _ ih =>
      obtain ⟨fuel, rfl⟩ : ∃ below, fuel = below + 1 := ⟨fuel - 1, by omega⟩
      have hless : middle.here.length < fuel :=
        Nat.lt_of_lt_of_le hstep.2.1 (Nat.le_of_lt_succ hfuel)
      obtain ⟨after, hafter⟩ := ih hless
      obtain ⟨expr, hrun⟩ := repeatWhile_passes fuel hstep
      exact ⟨after, by rw [hrun, run_map, hafter]⟩

/-! ### Argument lists -/

/-- The readers of the parts of an argument list. -/
def readersOf (list : String) : Inner := partsTo (partsPerToken * (list.toList.length + 1))

/-- An argument list begins with an expression, and the cursor stands behind it. -/
def FirstArgument (list : String) (expr : Expr) (after : Cursor) : Prop :=
  (readersOf list).assignment .outermost (.start list.toList) = .ok expr after

variable {list : String}

theorem FirstArgument.isSingle (hfirst : FirstArgument list expr after) : expr.IsSingle :=
  (partsTo_single _).assignment _ _ _ _ hfirst

/-- Behind the first argument a comma decides whether there are others. -/
theorem FirstArgument.parseExpression_eq (hfirst : FirstArgument list expr after) :
    parseExpression list
      = if after.token = .punctuator "," then
          match repeatWhile (eats ",") (readersOf list).assignment (after.here.length + 1)
            .outermost after with
          | .ok others _ => .ok (.sequence expr others)
          | .error cause _ => .error cause
        else .ok expr := by
  have hread : (readersOf list).assignment .outermost (.start list.toList) = .ok expr after :=
    hfirst
  rw [parseExpression, ReaderT.run, ← readersOf, expression, run_bind, hread]
  by_cases hcomma : after.token = .punctuator ","
  · simp only [run_bind, run_sees, run_ite, beq_iff_eq, hcomma, if_true, manyWhile, run_get]
    cases repeatWhile (eats ",") (readersOf list).assignment (after.here.length + 1)
      .outermost after <;> rfl
  · simp only [run_bind, run_sees, run_ite, beq_iff_eq, hcomma, if_false, run_pure]

/-- **A list is read as its first argument**, or as a sequence that begins with it. -/
theorem FirstArgument.parseExpression_leads (hfirst : FirstArgument list expr after) {whole : Expr}
    (hwhole : parseExpression list = .ok whole) :
    whole = expr ∨ ∃ others, whole = .sequence expr others := by
  rw [hfirst.parseExpression_eq] at hwhole
  split at hwhole
  · split at hwhole <;> cases hwhole
    exact Or.inr ⟨_, rfl⟩
  · cases hwhole
    exact Or.inl rfl

/-- **A list is read** when it is closed behind some arguments. -/
theorem FirstArgument.parseExpression_closed (hfirst : FirstArgument list expr after)
    (hpasses : ReflTransGen (PassesArgument (readersOf list)) after last)
    (hend : last.token ≠ .punctuator ",") : ∃ whole, parseExpression list = .ok whole := by
  rw [hfirst.parseExpression_eq]
  obtain ⟨others, hothers⟩ := repeatWhile_closed hend hpasses (Nat.lt_succ_self _)
  rw [hothers]
  split
  · exact ⟨_, rfl⟩
  · exact ⟨_, rfl⟩

/-- **A list is refused** where no expression follows a comma. -/
theorem FirstArgument.parseExpression_refused (hfirst : FirstArgument list expr after)
    (hpasses : ReflTransGen (PassesArgument (readersOf list)) after last) (hcomma : AtComma last)
    (hnone : (last.following .outermost).token.BeginsNoExpression) :
    parseExpression list = .error .expressionExpected := by
  -- Even in the empty list the readers reach down to a single token.
  have hdepth : partsPerToken * (list.toList.length + 1)
      = partsPerToken * list.toList.length + 4 + 4 := rfl
  have hrefused : ∃ after, (readersOf list).assignment .outermost (last.following .outermost)
      = .error .expressionExpected after := by
    rw [readersOf, hdepth]
    exact ⟨_, assignment_refused hnone⟩
  have hafter : after.token = .punctuator "," := by
    rcases hpasses.cases_head with rfl | ⟨middle, hstep, _⟩
    · exact hcomma.1
    · exact hstep.1.1
  obtain ⟨place, hothers⟩ := repeatWhile_refused hcomma hrefused hpasses (Nat.lt_succ_self _)
  rw [hfirst.parseExpression_eq, if_pos hafter, hothers]

/-! ### Lists of literals -/

variable {following : List Char} {others : List Value} {value : Value} {tail : String}

theorem EndsItem.behind_others (hfollowing : EndsItem following) (texts : List String) :
    EndsItem (joinedBehind texts ++ following) := by
  cases texts with
  | nil => exact hfollowing
  | cons text rest => exact Or.inr ⟨',', _, rfl, Or.inl rfl⟩

theorem EndsItem.here_behind (hfollowing : EndsItem following) :
    (Cursor.behind false false following).here = following := by
  rcases hfollowing with rfl | ⟨char, rest, rfl, rfl | rfl | rfl⟩ <;> rfl

/-- Each literal behind the first is passed with the comma before it. -/
theorem passes_literals {depth : Nat} (hothers : itemsAreJson others)
    (hdepth : partsPerToken * (joinedBehind (compactItems others)).length ≤ depth)
    (hfollowing : EndsItem following) :
    ReflTransGen (PassesArgument (partsTo depth))
      (.behind false false (joinedBehind (compactItems others) ++ following))
      (.behind false false following) := by
  induction others with
  | nil => exact .refl
  | cons item others ih =>
      obtain ⟨hitem, hothers⟩ := hothers
      rw [compactItems, joinedBehind, joined_cons, List.length_cons, List.length_append,
        Nat.add_right_comm] at hdepth
      obtain ⟨hdepthItem, hdepthOthers⟩ := depth_item hdepth
      have hends := hfollowing.behind_others (compactItems others)
      have hcomma := behind_mark (by decide : (',', ",") ∈ marks) false
        (item.compact.toList ++ (joinedBehind (compactItems others) ++ following))
      obtain ⟨expr, -, hread⟩ := assignment_compact item hitem
        (Nat.le_trans (Nat.mul_le_mul_left _ (Nat.le_succ _)) hdepthItem)
        (rfl : Context.outermost.inType = false) false hends
      rw [compactItems, joinedBehind, joined_cons, List.cons_append, List.append_assoc, hcomma]
      refine .head ⟨⟨rfl, rfl⟩, ?_, expr, hread⟩ (ih hothers hdepthOthers)
      rw [hends.here_behind]
      simp only [List.length_cons, List.length_append]
      omega

/-- The text of an argument list that holds the texts of some values. -/
def literalList (values : List Value) : String := ",".intercalate (compactItems values)

/-- A list of literals is read up to what ends it. -/
theorem first_literals (hvalues : itemsAreJson (value :: others)) (hends : EndsItem tail.toList) :
    ∃ expr after, Spells value expr
      ∧ FirstArgument (literalList (value :: others) ++ tail) expr after
      ∧ ReflTransGen (PassesArgument (readersOf (literalList (value :: others) ++ tail))) after
        (.behind false false tail.toList) := by
  obtain ⟨hvalue, hothers⟩ := hvalues
  have hlist : (literalList (value :: others) ++ tail).toList
      = value.compact.toList ++ (joinedBehind (compactItems others) ++ tail.toList) := by
    rw [String.toList_append, ← List.append_assoc, ← joined_cons]
    rfl
  have hbehind := hends.behind_others (compactItems others)
  have hdepth : partsPerToken
      * (value.compact.toList.length + (joinedBehind (compactItems others)).length)
      ≤ partsPerToken * ((literalList (value :: others) ++ tail).toList.length + 1) := by
    rw [hlist, List.length_append, List.length_append]
    exact Nat.mul_le_mul_left _ (by omega)
  obtain ⟨hdepthValue, hdepthOthers⟩ := depth_item hdepth
  obtain ⟨expr, hspells, hread⟩ := assignment_compact value hvalue hdepthValue
    (rfl : Context.outermost.inType = false) true hbehind
  refine ⟨expr, _, hspells, ?_, passes_literals hothers hdepthOthers hends⟩
  rw [FirstArgument, hlist, start_compact hvalue hbehind]
  exact hread

/-- A comma behind a list of literals is the next token, with what follows it behind it. -/
theorem first_literals_comma (rest : String) (hvalues : itemsAreJson (value :: others)) :
    ∃ expr after last, Spells value expr
      ∧ FirstArgument (literalList (value :: others) ++ ("," ++ rest)) expr after
      ∧ ReflTransGen
          (PassesArgument (readersOf (literalList (value :: others) ++ ("," ++ rest)))) after last
      ∧ AtComma last ∧ last.following .outermost = .behind false false rest.toList := by
  have hlist : ("," ++ rest).toList = ',' :: rest.toList := by simp
  have hends : EndsItem ("," ++ rest).toList := Or.inr ⟨',', rest.toList, hlist, Or.inl rfl⟩
  obtain ⟨expr, after, hspells, hfirst, hpasses⟩ := first_literals hvalues hends
  have hcomma := behind_mark (by decide : (',', ",") ∈ marks) false rest.toList
  rw [hlist, hcomma] at hpasses
  exact ⟨expr, after, _, hspells, hfirst, hpasses, ⟨rfl, rfl⟩, rfl⟩

end UtilityClasses.Script
