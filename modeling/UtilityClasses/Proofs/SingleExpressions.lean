import UtilityClasses.Proofs.ParseRuns

/-!
# What is read between commas is no sequence

An assignment is the largest expression without a comma at its top. Whatever form it takes, a
sequence stands in it only inside brackets: what the readers of operators, members and calls add
around an expression is never a sequence, and a group hides the one it holds.
-/

namespace UtilityClasses.Script

variable {α β : Type} {reading : Parse α} {property : α → Prop}

/-- Whatever a reading returns has a property. -/
def Returns (reading : Parse α) (property : α → Prop) : Prop :=
  ∀ context cursor value after, reading context cursor = .ok value after → property value

namespace Returns

theorem pure {value : α} (hvalue : property value) :
    Returns (Pure.pure value : Parse α) property := by
  intro context cursor found after hrun
  cases hrun
  exact hvalue

theorem throw (cause : SyntaxError) : Returns (throw cause : Parse α) property := by
  intro context cursor found after hrun
  cases hrun

/-- What is returned last decides, with what is known of the value before. -/
theorem bind_of {next : α → Parse β} {last : β → Prop} (hreading : Returns reading property)
    (hnext : ∀ value, property value → Returns (next value) last) :
    Returns (reading >>= next) last := by
  intro context cursor found after hrun
  rw [run_bind] at hrun
  cases hfirst : reading context cursor with
  | ok value middle =>
      rw [hfirst] at hrun
      exact hnext value (hreading _ _ _ _ hfirst) _ _ _ _ hrun
  | error cause middle =>
      rw [hfirst] at hrun
      cases hrun

theorem bind {next : α → Parse β} {last : β → Prop}
    (hnext : ∀ value, Returns (next value) last) : Returns (reading >>= next) last :=
  bind_of (fun _ _ _ _ _ => trivial : Returns reading fun _ => True) fun value _ => hnext value

theorem ite {condition : Prop} [Decidable condition] {yes no : Parse α}
    (hyes : Returns yes property) (hno : Returns no property) :
    Returns (if condition then yes else no) property := by
  split
  · exact hyes
  · exact hno

/-- A step that is taken only where it is needed changes nothing about what follows. -/
theorem guarded {condition : Prop} [Decidable condition] {step : Parse β} {next : Parse α}
    (hnext : Returns next property) :
    Returns (if condition then step >>= fun _ => next else next) property :=
  .ite (.bind fun _ => hnext) hnext

theorem tryCatch {handler : SyntaxError → Parse α} (hreading : Returns reading property)
    (hhandler : ∀ cause, Returns (handler cause) property) :
    Returns (tryCatch reading handler) property := by
  intro context cursor found after hrun
  rw [run_tryCatch] at hrun
  cases hfirst : reading context cursor with
  | ok value middle =>
      rw [hfirst] at hrun
      cases hrun
      exact hreading _ _ _ _ hfirst
  | error cause middle =>
      rw [hfirst] at hrun
      exact hhandler cause _ _ _ _ hrun

theorem inContext {change : Context → Context} (hreading : Returns reading property) :
    Returns (inContext change reading) property :=
  fun _ _ _ _ hrun => hreading _ _ _ _ hrun

theorem stop (cause : SyntaxError) : Returns (stop cause : Parse α) property :=
  .bind fun _ => .throw cause

theorem unexpected (wanted : String) : Returns (unexpected wanted : Parse α) property :=
  .bind fun _ => .stop _

theorem attempt (hreading : Returns reading property) :
    Returns (attempt reading) fun found => ∀ value ∈ found, property value := by
  intro context cursor found after hrun
  rw [run_attempt] at hrun
  cases hfirst : reading context cursor with
  | ok value middle =>
      rw [hfirst] at hrun
      cases hrun
      rintro _ ⟨⟩
      exact hreading _ _ _ _ hfirst
  | error cause middle =>
      rw [hfirst] at hrun
      cases hrun
      rintro _ ⟨⟩

end Returns

/-- An expression has no comma at its top. -/
def Expr.IsSingle : Expr → Prop
  | .sequence _ _ => False
  | _ => True

/-- Every part that is an expression is read as a single one. -/
structure Inner.Single (inner : Inner) : Prop where
  assignment : Returns inner.assignment Expr.IsSingle
  unary : Returns inner.unary Expr.IsSingle
  access : Returns inner.access Expr.IsSingle
  creation : Returns inner.creation Expr.IsSingle

variable {inner : Inner} {expr : Expr} {reach : Reach} {base : Base}

/-! ### Operators -/

theorem operatorsFrom_single {left : Expr} (hleft : left.IsSingle) (fuel least : Nat) :
    Returns (operatorsFrom inner fuel left least) Expr.IsSingle := by
  induction fuel generalizing left least with
  | zero => exact .pure hleft
  | succ fuel ih =>
      rw [operatorsFrom]
      refine .bind fun wrapper => ?_
      cases wrapper with
      | some wrapper => exact @ih (.typed wrapper left) trivial least
      | none =>
          refine .bind fun precedence => ?_
          cases precedence with
          | none => exact .pure hleft
          | some precedence =>
              refine .ite (.pure hleft) (.bind fun isPower => ?_)
              -- However the operator is passed, the right operand stands behind it.
              have hright : Returns (do
                  let operand ← inner.unary
                  let right ← operatorsFrom inner fuel operand
                    (if isPower then precedence - 1 else precedence)
                  operatorsFrom inner fuel (.dynamic .binary [left, right]) least)
                  Expr.IsSingle :=
                .bind fun operand => .bind fun right =>
                  @ih (.dynamic .binary [left, right]) trivial least
              exact .ite (.bind fun _ => .guarded hright) (.guarded hright)

theorem operatorsBehind_single (hexpr : expr.IsSingle) :
    Returns (operatorsBehind inner expr) Expr.IsSingle :=
  .bind fun _ => operatorsFrom_single hexpr _ 0

/-- What stands for a left operand that could not be read. -/
def missingOperand (cause : SyntaxError) : Parse Expr := do
  refuseUnreadable
  if (← operator?).isSome then return .dynamic .missing [] else throw cause

/-- The handler returns early from the whole reading, which amounts to returning from itself. -/
theorem leftOperand_eq (inner : Inner) :
    leftOperand inner = tryCatch inner.unary missingOperand := by
  funext context cursor
  simp only [leftOperand, run_bind, run_tryCatch]
  cases inner.unary context cursor with
  | ok operand after => rfl
  | error cause after =>
      simp only [missingOperand, run_bind]
      cases refuseUnreadable context after with
      | error other last => rfl
      | ok _ middle =>
          simp only
          cases operator? context middle with
          | error other last => rfl
          | ok found last =>
              simp only [run_ite]
              cases found.isSome <;> rfl

theorem binary_single (hinner : inner.Single) : Returns (binary inner) Expr.IsSingle := by
  have hleft : Returns (leftOperand inner) Expr.IsSingle := by
    rw [leftOperand_eq]
    exact .tryCatch hinner.unary fun cause =>
      .bind fun _ => .bind fun _ => .ite (.pure trivial) (.throw cause)
  exact .bind_of hleft fun left hleft => .ite (.pure hleft) (operatorsBehind_single hleft)

theorem awaited_single : Returns (awaited inner) Expr.IsSingle :=
  .bind fun _ => .ite (.stop _) <| .bind fun _ => .bind fun _ => .bind fun _ =>
    .ite (.pure trivial) (.bind fun _ => .pure trivial)

theorem unary_single (hinner : inner.Single) : Returns (unary inner) Expr.IsSingle := by
  have hbehind : Returns (do
      let operand ← inner.access
      if operand.isArrow || (← breaksBefore) then return operand
      else if ← seesOneOf ["++", "--"] then
        bump
        return .dynamic .update [operand]
      else return operand) Expr.IsSingle :=
    .bind_of hinner.access fun operand hoperand => .bind fun _ => .ite (.pure hoperand) <|
      .bind fun _ => .ite (.bind fun _ => .pure trivial) (.pure hoperand)
  refine .bind fun isUpdate => .ite ?_ (.bind fun isSign => .bind fun isWord => .ite ?_ ?_)
  · exact .bind fun _ => .bind fun _ => .pure trivial
  · exact .bind fun _ => .bind fun _ => .pure trivial
  · exact .bind fun _ => .ite awaited_single hbehind

theorem conditional_single (hinner : inner.Single) :
    Returns (conditional inner) Expr.IsSingle := by
  have hbranches (condition : Expr) : Returns (branches inner condition) Expr.IsSingle :=
    .bind fun _ => .bind fun _ => .bind fun _ => .pure trivial
  exact .bind_of (binary_single hinner) fun condition hcondition => .ite (.pure hcondition) <|
    .bind fun _ => .ite (hbranches condition) (.pure hcondition)

theorem assignmentTo_single (hexpr : expr.IsSingle) :
    Returns (assignmentTo inner expr) Expr.IsSingle := by
  have hvalue : Returns (do
      bump
      return .dynamic .assignment [expr, ← inner.assignment]) Expr.IsSingle :=
    .bind fun _ => .bind fun _ => .pure trivial
  exact .bind fun _ => .ite (.ite (.stop _) (.ite hvalue (.stop _))) <|
    .bind fun _ => .ite (.ite hvalue (.stop _)) (.pure hexpr)

theorem plainAssignment_single (hinner : inner.Single) :
    Returns (plainAssignment inner) Expr.IsSingle := by
  have hyielded : Returns (yielded inner) Expr.IsSingle := by
    have hvalue : Returns (do
        if ← yieldsValue then
          let _ ← eats "*"
          return Expr.dynamic .yielded [← inner.assignment]
        else return .dynamic .yielded []) Expr.IsSingle :=
      .bind fun _ => .ite (.bind fun _ => .bind fun _ => .pure trivial) (.pure trivial)
    exact .bind fun _ => .bind fun _ => .guarded hvalue
  have htarget : Returns (do
      refuseUnreadable
      markArrowStart
      let target ← conditional inner
      if target.isArrow || target.endsAssignment then return target
      else assignmentTo inner target) Expr.IsSingle :=
    .bind fun _ => .bind fun _ => .bind_of (conditional_single hinner) fun target htarget =>
      .ite (.pure htarget) (assignmentTo_single htarget)
  exact .bind fun _ => .bind fun _ => .ite hyielded htarget

theorem assignment_single (hinner : inner.Single) : Returns (assignment inner) Expr.IsSingle := by
  have hplain := plainAssignment_single hinner
  have harrow : Returns (genericArrow inner) Expr.IsSingle :=
    .bind fun _ => .bind_of hplain fun arrow harrow => .ite (.pure harrow) (.unexpected _)
  refine .bind fun _ => .bind fun _ => .ite (.bind_of harrow.inContext.attempt ?_) hplain
  rintro (_ | arrow) harrow
  · exact hplain
  · exact .pure (harrow arrow rfl)

/-! ### Members and calls -/

theorem call_single (optional : Bool) (callee : Expr) :
    Returns (call inner optional callee) Expr.IsSingle :=
  .bind fun _ => .pure trivial

theorem memberOf_single (optional noCalls : Bool) (operands : List Expr) :
    Returns (memberOf optional noCalls operands base) Expr.IsSingle := by
  cases base with
  | value callee => exact .pure trivial
  | parent => exact .ite (.pure trivial) (.stop _)
  | module => exact .stop _

theorem namedStep_single (optional : Bool) :
    Returns (namedStep optional reach base) Expr.IsSingle := by
  refine .bind fun isPrivate => .bind fun _ => ?_
  cases base with
  | parent => exact .ite (.stop _) (memberOf_single _ _ _)
  | _ => exact memberOf_single _ _ _

theorem optionalStep_single : Returns (optionalStep inner reach base) Expr.IsSingle := by
  have hcall : Returns (optionalCall inner reach base) Expr.IsSingle := by
    refine .bind fun _ => .guarded ?_
    cases base with
    | value callee => exact call_single true callee
    | _ => exact .bind fun _ => memberOf_single _ _ _
  exact .bind fun _ => .ite (.bind fun _ => .bind fun _ => memberOf_single _ _ _) <|
    .bind fun _ => .ite hcall (namedStep_single true)

theorem plainCall_single : Returns (plainCall inner base) Expr.IsSingle := by
  cases base with
  | value callee => exact call_single false callee
  | parent => exact .bind fun _ => .pure trivial
  | module => exact .bind fun _ => .ite (.bind fun _ => .pure trivial) (.pure trivial)

/-- A reading that is wrapped as found returns a property of what is found. -/
theorem Returns.found (hreading : Returns reading property) :
    Returns (do return some (← reading)) fun found => ∀ value ∈ found, property value :=
  .bind_of hreading fun value hvalue => .pure (by simpa using hvalue)

theorem step?_single :
    Returns (step? inner reach base) fun found => ∀ expr ∈ found, expr.IsSingle :=
  .bind fun _ => .ite (.bind fun _ => .bind fun _ => optionalStep_single.found) <|
    .bind fun _ => .ite (.bind fun _ => .bind fun _ => (memberOf_single _ _ _).found) <|
      .bind fun _ => .ite plainCall_single.found <|
        .bind fun _ => .ite (namedStep_single false).found (.pure (by simp))

theorem genericStep?_single :
    Returns (genericStep? inner reach expr) fun found => ∀ step ∈ found, step.1.IsSingle := by
  have hbehind : Returns (typeArgumentsBehind inner reach expr) fun step => step.1.IsSingle := by
    refine .bind fun _ => .bind fun token => ?_
    split
    · exact .bind fun _ => .pure trivial
    · exact .ite (.bind_of (call_single false expr) fun _ hcall => .pure hcall) (.unexpected _)
    · exact .pure trivial
    · exact .pure trivial
    · exact .pure trivial
    · exact .bind fun _ => .ite (.pure trivial) (.unexpected _)
  exact .bind fun _ => .ite hbehind.attempt.inContext (.pure (by simp))

theorem stepOf?_single :
    Returns (stepOf? inner reach expr) fun found => ∀ step ∈ found, step.1.IsSingle := by
  refine .bind fun _ => .ite (.bind fun _ => .pure (by simp [Expr.IsSingle])) ?_
  refine .bind_of genericStep?_single fun generic hgeneric => ?_
  cases generic with
  | some step => exact .pure hgeneric
  | none =>
      refine .bind_of step?_single fun plain hplain => ?_
      cases plain with
      | some expr => exact .pure (by simpa using hplain)
      | none =>
          refine .bind fun token => ?_
          split
          · exact .bind fun _ => .pure (by simp [Expr.IsSingle])
          · exact .pure (by simp)

theorem steps_single (hexpr : expr.IsSingle) :
    Returns (steps inner reach expr) Expr.IsSingle := by
  refine .bind fun cursor => ?_
  generalize cursor.here.length + 1 = fuel
  induction fuel generalizing expr with
  | zero => exact .pure hexpr
  | succ fuel ih =>
      refine .bind_of stepOf?_single fun found hfound => ?_
      match found, hfound with
      | none, _ => exact .pure hexpr
      | some (next, true), hnext => exact ih (hnext _ rfl)
      | some (next, false), hnext => exact .pure (hnext _ rfl)

/-- `super` and `import` are no expressions, so what they begin is one from the first step on. -/
theorem firstStep_single (base : Base) (cause : SyntaxError) :
    Returns (do
      match ← step? inner reach base with
      | some callee => steps inner reach callee
      | none => stop cause) Expr.IsSingle := by
  refine .bind_of step?_single fun found hfound => ?_
  cases found with
  | some callee => exact steps_single (hfound _ rfl)
  | none => exact .stop _

theorem parentSteps_single : Returns (parentSteps inner reach) Expr.IsSingle :=
  .bind fun _ => .ite (.bind fun _ => .bind fun _ => firstStep_single _ _) (firstStep_single _ _)

theorem moduleSteps_single : Returns (moduleSteps inner reach) Expr.IsSingle :=
  .bind fun _ => .ite (.bind fun _ => .bind fun _ => firstStep_single _ _) (firstStep_single _ _)

theorem moduleExpression_single : Returns (moduleExpression inner reach) Expr.IsSingle :=
  .bind fun _ => .ite
    (.bind fun _ => .ite (steps_single trivial) (.ite moduleSteps_single (.unexpected _)))
    moduleSteps_single

theorem newExpression_single (hinner : inner.Single) :
    Returns (newExpression inner) Expr.IsSingle := by
  have hbehind (callee : Expr) : Returns (do
      withWholeAngles false (optionalArgumentTypes inner)
      if ← sees "(" then
        let items ← arguments inner
        steps inner .members (.dynamic (.creation true) (callee :: items))
      else return .dynamic (.creation false) [callee]) Expr.IsSingle :=
    .bind fun _ => .bind fun _ => .ite (.bind fun _ => steps_single trivial) (.pure trivial)
  refine .bind fun isTarget => .ite ?_ (.bind_of hinner.creation fun callee hcallee => ?_)
  · exact .bind fun _ => .ite (steps_single trivial) (.unexpected _)
  · exact .ite (.pure hcallee) (.ite (.stop _) (hbehind callee))

theorem creation_single {primary : Parse Expr} (hinner : inner.Single)
    (hprimary : Returns primary Expr.IsSingle) :
    Returns (creation inner primary) Expr.IsSingle :=
  .inContext <| .bind fun _ => .ite (newExpression_single hinner) <|
    .bind fun _ => .ite parentSteps_single <| .bind fun _ => .ite moduleExpression_single <|
      .bind_of hprimary fun _ hcallee => .ite (.pure hcallee) (steps_single hcallee)

theorem access_single (hinner : inner.Single) : Returns (access inner) Expr.IsSingle := by
  have hcalled (callee : Expr) (hcallee : callee.IsSingle) : Returns (do
      optionalArgumentTypes inner
      if isBareCreation callee then return callee
      else if ← sees "(" then steps inner .all (← call inner false callee)
      else return callee) Expr.IsSingle := by
    refine .bind fun _ => .ite (.pure hcallee) (.bind fun opens => .ite ?_ (.pure hcallee))
    exact .bind_of (call_single false callee) fun _ hcall => steps_single hcall
  refine .bind fun isTag => .ite ?_ (.bind fun isParent => .ite parentSteps_single ?_)
  · exact .bind fun _ => .pure trivial
  · exact .bind fun _ => .ite moduleExpression_single <|
      .bind_of hinner.creation fun callee hcallee => .ite (.pure hcallee) (hcalled callee hcallee)

/-! ### Parentheses and single tokens -/

theorem groupOf_single (items : List (Bool × Expr)) : Returns (groupOf items) Expr.IsSingle := by
  unfold groupOf
  split
  · exact .stop _
  · refine .ite (.bind fun _ => ?_) ?_
    -- Both branches of the check for spread items go on with the same cases.
    all_goals
      split
      · exact .stop _
      · exact .pure trivial
      · exact .pure trivial

theorem groupOrArrow_single (asynchronous mayBeArrow : Bool) :
    Returns (groupOrArrow inner asynchronous mayBeArrow) Expr.IsSingle := by
  have hinBranch (items : List GroupItem) : Returns (arrowInBranch? inner asynchronous items)
      fun found => ∀ expr ∈ found, expr.IsSingle := by
    have harrow : Returns (arrowInBranch inner asynchronous items) Expr.IsSingle :=
      .bind fun _ => .bind fun _ => .bind fun _ => .bind fun _ => .bind fun _ =>
        .ite (.pure trivial) (.unexpected _)
    exact .bind fun _ => .bind fun _ => .ite harrow.attempt (.pure (by simp))
  have hrest (items : List GroupItem) :
      Returns (arrowRest inner asynchronous mayBeArrow items) Expr.IsSingle := by
    have hbody : Returns (do
        expect "=>"
        refuseMethods items
        let isBlock ← arrowBody inner asynchronous
        if isBlock && (← seesOperatorSign) then operatorsBehind inner (.dynamic .arrow [])
        else return .dynamic .arrow []) Expr.IsSingle :=
      .bind fun _ => .bind fun _ => .bind fun _ => .bind fun _ =>
        .ite (operatorsBehind_single trivial) (.pure trivial)
    exact .bind fun _ => .guarded (.guarded hbody)
  refine .bind fun items => .bind_of (hinBranch items) fun found hfound => ?_
  cases found with
  | some arrow => exact .pure (hfound _ rfl)
  | none =>
      exact .bind fun _ => .bind fun _ => .ite (hrest items) <| .bind fun _ =>
        .ite (.pure trivial) (groupOf_single _)

theorem named_single (mayBeArrow : Bool) : Returns (named inner mayBeArrow) Expr.IsSingle := by
  have hasync : Returns (asyncArrow inner) Expr.IsSingle :=
    .bind fun _ => .bind fun _ => .ite (.bind fun _ => .pure trivial) <|
      .bind fun _ => .bind fun _ => .pure trivial
  exact .bind fun _ => .bind fun _ => .bind fun _ => .ite (.pure trivial) <| .bind fun _ =>
    .ite (.bind fun _ => .ite (.pure trivial) hasync) <|
      .bind fun _ => .ite (.bind fun _ => .pure trivial) (.pure trivial)

theorem functionExpression_single (asynchronous : Bool) :
    Returns (functionExpression inner asynchronous) Expr.IsSingle :=
  .bind fun _ => .bind fun _ => .bind fun _ => .bind fun _ => .ite (.pure trivial) (.unexpected _)

theorem asyncOrNamed_single (mayBeArrow : Bool) :
    Returns (asyncOrNamed inner mayBeArrow) Expr.IsSingle := by
  have hgeneric : Returns (genericAsyncArrow inner) Expr.IsSingle := by
    have hbody : Returns (do
        expect "=>"
        let _ ← arrowBody inner true
        return Expr.dynamic .arrow []) Expr.IsSingle :=
      .bind fun _ => .bind fun _ => .pure trivial
    exact .bind fun _ => .bind fun _ => .bind fun _ => .bind fun _ => .bind fun _ =>
      .guarded hbody
  have hbehind (following : Token) (generic : Option Expr)
      (hgeneric : ∀ expr ∈ generic, expr.IsSingle) : Returns (match generic with
      | some arrow => return arrow
      | none => do
        if mayBeArrow && following == .punctuator "(" then
          bump
          groupOrArrow inner true true
        else named inner mayBeArrow) Expr.IsSingle := by
    cases generic with
    | some arrow => exact .pure (hgeneric arrow rfl)
    | none => exact .ite (.bind fun _ => groupOrArrow_single true true) (named_single mayBeArrow)
  exact .bind fun following => .ite (.bind fun _ => functionExpression_single true) <|
    .ite (.bind_of (Returns.bind fun _ => hgeneric).attempt fun generic => hbehind _ generic)
      (.bind_of (.pure (by simp)) fun generic => hbehind _ generic)

theorem keyword_single (mayBeArrow : Bool) (word : String) :
    Returns (keyword inner mayBeArrow word) Expr.IsSingle := by
  unfold keyword
  split
  · exact .bind fun _ => .pure trivial
  · exact .bind fun _ => .pure trivial
  · exact .bind fun _ => .pure trivial
  · exact .bind fun _ => .pure trivial
  · exact functionExpression_single false
  · exact .bind fun _ => .bind fun _ => .pure trivial
  · exact asyncOrNamed_single mayBeArrow
  · exact named_single mayBeArrow
  · exact named_single mayBeArrow
  · exact .bind fun _ => .ite (named_single mayBeArrow) (.stop _)

theorem template_single (part : TemplatePart) (tagged : Bool) :
    Returns (template inner part tagged) Expr.IsSingle := by
  refine .bind fun _ => .bind fun _ => .ite ?_ (.bind fun _ => .bind fun _ => .pure trivial)
  split <;> exact .pure trivial

theorem regex_single : Returns regex Expr.IsSingle := by
  refine .bind fun _ => ?_
  split
  · exact .bind fun _ => .pure trivial
  · exact .bind fun _ => .throw _

theorem primary_single : Returns (primary inner) Expr.IsSingle := by
  refine .bind fun cursor => .bind fun token => ?_
  split
  · exact .bind fun _ => .pure trivial
  · exact .bind fun _ => .pure trivial
  · exact .bind fun _ => .pure trivial
  · exact template_single _ _
  · exact named_single _
  · exact keyword_single _ _
  · exact groupOrArrow_single _ _
  · exact .inContext (.bind fun _ => .bind fun _ => .pure trivial)
  · exact .inContext (.bind fun _ => .bind fun _ => .pure trivial)
  · exact regex_single
  · exact regex_single
  · exact .bind fun _ => .bind fun _ => .pure trivial
  · exact .stop _

/-- **What is read between commas is no sequence**, at any depth. -/
theorem partsTo_single (depth : Nat) : (partsTo depth).Single := by
  induction depth with
  | zero => exact ⟨.throw _, .throw _, .throw _, .throw _⟩
  | succ depth ih =>
      exact ⟨assignment_single ih, unary_single ih, access_single ih,
        creation_single ih primary_single⟩

end UtilityClasses.Script
