import UtilityClasses.Proofs.ParseRuns

/-!
# A literal alone is an expression

A literal passes all the readers of operators around it unchanged when the token behind it ends an
item of a list or an object: no member, call, operator, condition or assignment begins with that
token.
-/

namespace UtilityClasses.Script

/-- Tokens that end an item, and the end of the text. -/
inductive Token.EndsItem : Token → Prop where
  | eof : EndsItem .eof
  | comma : EndsItem (.punctuator ",")
  | bracket : EndsItem (.punctuator "]")
  | brace : EndsItem (.punctuator "\x7d")

inductive Token.BeginsLiteral : Token → Prop where
  | text (value : Option String) : BeginsLiteral (.text value)
  | number (value : Decimal.Double) : BeginsLiteral (.number value)
  | null : BeginsLiteral (.keyword "null" "null")
  | true : BeginsLiteral (.keyword "true" "true")
  | false : BeginsLiteral (.keyword "false" "false")
  | bracket : BeginsLiteral (.punctuator "[")
  | brace : BeginsLiteral (.punctuator "\x7b")

/-- Expressions that the readers around them treat like any other. -/
def Expr.IsPlain (expr : Expr) : Prop := expr.isArrow = false ∧ isBareCreation expr = false

theorem Token.EndsItem.ne {token : Token} {spelling : String} (hends : token.EndsItem)
    (hother : spelling ∉ [",", "]", "\x7d"]) : token ≠ .punctuator spelling := by
  rintro rfl
  cases hends <;> exact hother (by decide)

theorem Token.EndsItem.isOneOf {token : Token} {spellings : List String} (hends : token.EndsItem)
    (hothers : ∀ spelling ∈ [",", "]", "\x7d"], spelling ∉ spellings) :
    token.isOneOf spellings = .false := by
  cases hends with
  | eof => rfl
  | _ => simpa [Token.isOneOf] using hothers _ (by decide)

theorem Token.EndsItem.isKeyword {token : Token} (hends : token.EndsItem) (word : String) :
    token.isKeyword word = .false := by
  cases hends <;> rfl

theorem Token.EndsItem.precedenceOf? {token : Token} (hends : token.EndsItem) (allowIn : Bool) :
    Script.precedenceOf? allowIn token = none := by
  cases hends <;> rfl

theorem Token.BeginsLiteral.ne {token : Token} {spelling : String} (hbegins : token.BeginsLiteral)
    (hother : spelling ∉ ["[", "\x7b"]) : token ≠ .punctuator spelling := by
  rintro rfl
  cases hbegins <;> exact hother (by decide)

theorem Token.BeginsLiteral.isOneOf {token : Token} {spellings : List String}
    (hbegins : token.BeginsLiteral) (hothers : ∀ spelling ∈ ["[", "\x7b"], spelling ∉ spellings) :
    token.isOneOf spellings = .false := by
  cases hbegins with
  | bracket => simpa [Token.isOneOf] using hothers _ (by decide)
  | brace => simpa [Token.isOneOf] using hothers _ (by decide)
  | _ => rfl

theorem Token.BeginsLiteral.isKeyword {token : Token} {word : String}
    (hbegins : token.BeginsLiteral) (hother : word ∉ ["null", "true", "false"]) :
    token.isKeyword word = .false := by
  have hne {found : String} (hfound : found ∈ ["null", "true", "false"]) :
      (found == word) = .false := by
    rw [beq_eq_false_iff_ne]
    rintro rfl
    exact hother hfound
  cases hbegins with
  | null => exact hne (by decide)
  | true => exact hne (by decide)
  | false => exact hne (by decide)
  | _ => rfl

theorem Token.BeginsLiteral.isOneOfKeywords {token : Token} {words : List String}
    (hbegins : token.BeginsLiteral)
    (hothers : ∀ word ∈ ["null", "true", "false"], word ∉ words) :
    token.isOneOfKeywords words = .false := by
  cases hbegins with
  | null => simpa [Token.isOneOfKeywords] using hothers _ (by decide)
  | true => simpa [Token.isOneOfKeywords] using hothers _ (by decide)
  | false => simpa [Token.isOneOfKeywords] using hothers _ (by decide)
  | _ => rfl

inductive Token.BeginsItem : Token → Prop where
  | literal {token : Token} (hbegins : token.BeginsLiteral) : BeginsItem token
  | hyphen : BeginsItem (.punctuator "-")

theorem Token.BeginsItem.ne_angle {token : Token} (hbegins : token.BeginsItem) :
    token ≠ .punctuator "<" := by
  cases hbegins with
  | literal hbegins => exact hbegins.ne (by decide)
  | hyphen => decide

/-- No arrow function begins with such a token, and it is no `yield`. -/
theorem Token.BeginsItem.starts_no_arrow {token : Token} (hbegins : token.BeginsItem) :
    token.isPlainWord = false ∧ token.isKeyword "yield" = false
      ∧ (token == .punctuator "(") = false := by
  cases hbegins with
  | literal hbegins => cases hbegins <;> exact ⟨rfl, rfl, rfl⟩
  | hyphen => decide

variable {inner : Inner} {context : Context} {cursor after : Cursor} {expr : Expr}

/-! ### Behind the literal -/

theorem stepOf?_ending (reach : Reach) (hends : after.token.EndsItem) :
    stepOf? inner reach expr context after = .ok none after := by
  obtain ⟨token, here, rest, lineBreak, arrowStart, stuck⟩ := after
  cases hends <;> simp [stepOf?, seesPresenceMark, genericStep?, step?, seesOptionalMark, eats]

theorem steps_ending (reach : Reach) (hends : after.token.EndsItem) :
    steps inner reach expr context after = .ok expr after := by
  simp [steps, stepsFrom, stepOf?_ending reach hends]

theorem operatorsBehind_ending (hends : after.token.EndsItem) :
    operatorsBehind inner expr context after = .ok expr after := by
  have hwrapper : typeWrapper? inner context after = .ok none after := by
    simp [typeWrapper?, hends.isKeyword]
  have hoperator : operator? context after = .ok none after := by
    simp [operator?, hends.precedenceOf?]
  simp [operatorsBehind, operatorsFrom, wrapperBehind?, comparison, hwrapper, hoperator]

theorem assignmentTo_ending (hends : after.token.EndsItem) :
    assignmentTo inner expr context after = .ok expr after := by
  have hplain : after.token ≠ .punctuator "=" := hends.ne (by decide)
  have hcompound : after.token.isOneOf compoundAssignments = false := hends.isOneOf (by decide)
  simp [assignmentTo, hplain, hcompound]

/-! ### From the literal outwards -/

theorem creation_literal {reading : Parse Expr} (hbegins : cursor.token.BeginsLiteral)
    (hends : after.token.EndsItem) (hplain : expr.IsPlain)
    (hreading : reading { context with wholeAngles := true } cursor = .ok expr after) :
    creation inner reading context cursor = .ok expr after := by
  have hnew : cursor.token.isKeyword "new" = false := hbegins.isKeyword (by decide)
  have hsuper : cursor.token.isKeyword "super" = false := hbegins.isKeyword (by decide)
  have himport : cursor.token.isKeyword "import" = false := hbegins.isKeyword (by decide)
  simp [creation, withWholeAngles, eatsWord, hnew, hsuper, himport, hreading, hplain.1,
    steps_ending _ hends]

theorem access_literal (hbegins : cursor.token.BeginsLiteral) (hends : after.token.EndsItem)
    (hplain : expr.IsPlain) (hcreation : inner.creation context cursor = .ok expr after) :
    access inner context cursor = .ok expr after := by
  have htag : cursor.token ≠ .punctuator "<" := hbegins.ne (by decide)
  have hsuper : cursor.token.isKeyword "super" = false := hbegins.isKeyword (by decide)
  have himport : cursor.token.isKeyword "import" = false := hbegins.isKeyword (by decide)
  have htypes : after.token.isOneOf ["<", "<<"] = false := hends.isOneOf (by decide)
  have hcall : after.token ≠ .punctuator "(" := hends.ne (by decide)
  simp [access, startsTag, htag, eatsWord, hsuper, himport, hcreation, hplain.1, hplain.2,
    optionalArgumentTypes, htypes, hcall]

theorem unary_literal (hbegins : cursor.token.BeginsLiteral) (hends : after.token.EndsItem)
    (hplain : expr.IsPlain) (haccess : inner.access context cursor = .ok expr after) :
    unary inner context cursor = .ok expr after := by
  have hupdate : cursor.token.isOneOf ["++", "--"] = false := hbegins.isOneOf (by decide)
  have hsign : cursor.token.isOneOf ["+", "-", "~", "!"] = false := hbegins.isOneOf (by decide)
  have hword : cursor.token.isOneOfKeywords prefixWords = false :=
    hbegins.isOneOfKeywords (by decide)
  have hawait : cursor.token.isKeyword "await" = false := hbegins.isKeyword (by decide)
  have hbehind : after.token.isOneOf ["++", "--"] = false := hends.isOneOf (by decide)
  simp [unary, hupdate, hsign, hword, eatsWord, hawait, haccess, hplain.1, hbehind]

theorem unary_hyphen (hhyphen : cursor.token = .punctuator "-") (hfree : cursor.stuck = false)
    (hunary : inner.unary context (cursor.following context) = .ok expr after) :
    unary inner context cursor = .ok (.dynamic .unary [expr]) after := by
  have hupdate : cursor.token.isOneOf ["++", "--"] = false := by rw [hhyphen]; decide
  have hsign : cursor.token.isOneOf ["+", "-", "~", "!"] = true := by rw [hhyphen]; decide
  simp [unary, hupdate, hsign, run_bump _ _ hfree, prefixOperand, hunary]

theorem refuseUnreadable_item (hbegins : cursor.token.BeginsItem) :
    refuseUnreadable context cursor = .ok () cursor := by
  rw [refuseUnreadable, run_bind, run_current]
  obtain ⟨token, here, rest, lineBreak, arrowStart, stuck⟩ := cursor
  cases hbegins with
  | literal hbegins => cases hbegins <;> rfl
  | hyphen => rfl

theorem markArrowStart_item (hbegins : cursor.token.BeginsItem)
    (harrow : cursor.arrowStart = false) : markArrowStart context cursor = .ok () cursor := by
  obtain ⟨hword, hyield, hparen⟩ := hbegins.starts_no_arrow
  obtain ⟨token, here, rest, lineBreak, arrowStart, stuck⟩ := cursor
  obtain rfl : arrowStart = false := harrow
  simp only [markArrowStart, run_bind, run_current, run_modify, hword, hyield, hparen, Bool.or_self]

theorem assignment_literal (hbegins : cursor.token.BeginsItem) (harrow : cursor.arrowStart = false)
    (hends : after.token.EndsItem) (hplain : expr.IsPlain)
    (hunary : inner.unary context cursor = .ok expr after) :
    assignment inner context cursor = .ok expr after := by
  obtain ⟨-, hyield, -⟩ := hbegins.starts_no_arrow
  have hcondition : after.token ≠ .punctuator "?" := hends.ne (by decide)
  have hbinary : binary inner context cursor = .ok expr after := by
    simp [binary, leftOperand, hunary, hplain.1, operatorsBehind_ending hends]
  have hconditional : conditional inner context cursor = .ok expr after := by
    simp [conditional, hbinary, hplain.1, eats, hcondition]
  simp [assignment, hbegins.ne_angle, plainAssignment, hyield, refuseUnreadable_item hbegins,
    markArrowStart_item hbegins harrow, hconditional, hplain.1, assignmentTo_ending hends]

/-! ### Through all levels

Between an item and its literal stand four requests for a part. -/

theorem unary_parts {depth : Nat} (hbegins : cursor.token.BeginsLiteral)
    (hends : after.token.EndsItem) (hplain : expr.IsPlain)
    (hprimary : primary (partsTo depth) { context with wholeAngles := true } cursor
      = .ok expr after) :
    (partsTo (depth + 3)).unary context cursor = .ok expr after :=
  unary_literal hbegins hends hplain
    (access_literal hbegins hends hplain (creation_literal hbegins hends hplain hprimary))

theorem assignment_parts {depth : Nat} (hbegins : cursor.token.BeginsLiteral)
    (harrow : cursor.arrowStart = false) (hends : after.token.EndsItem) (hplain : expr.IsPlain)
    (hprimary : primary (partsTo depth) { context with wholeAngles := true } cursor
      = .ok expr after) :
    (partsTo (depth + 4)).assignment context cursor = .ok expr after :=
  assignment_literal (.literal hbegins) harrow hends hplain
    (unary_parts hbegins hends hplain hprimary)

end UtilityClasses.Script
