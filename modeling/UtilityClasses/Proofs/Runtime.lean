import UtilityClasses.Evaluation

/-!
# What an expression may yield

The values that an expression may have when it runs, as a relation. Literals have their own value,
an object runs through its members in order, and all else may have any value, every time it is run:
two calls of one function need not agree.
-/

namespace UtilityClasses.Script

open Json (Value Fields setField)

/-- Expressions whose value is not spelled by their text. -/
def Expr.isUnknown : Expr → Bool
  | .text none | .template none | .list _ | .sequence _ _ | .identifier _ | .dynamic _ _ => true
  | _ => false

/-- Keys in brackets are told by running what is in them; numbers may be spelled in many ways. -/
def Key.isUnknown : Key → Bool
  | .text none | .number _ | .bigint => true
  | _ => false

def assignAll (fields : Fields) (assignments : Fields) : Fields :=
  assignments.foldl (fun known assignment => setField known assignment.1 assignment.2) fields

mutual

inductive Expr.Yields : Expr → Value → Prop where
  | null : Expr.Yields .null .null
  | boolean (value : Bool) : Expr.Yields (.boolean value) (.boolean value)
  | number (value : Decimal.Double) : Expr.Yields (.number value) (.number (.double value))
  | text (value : String) : Expr.Yields (.text (some value)) (.text value)
  | template (value : String) : Expr.Yields (.template (some value)) (.text value)
  | group {inner : Expr} {value : Value} (hinner : Expr.Yields inner value) :
      Expr.Yields (.group inner) value
  | typed {wrapper : TypeWrapper} {inner : Expr} {value : Value}
      (hinner : Expr.Yields inner value) : Expr.Yields (.typed wrapper inner) value
  | object {members : List Member} {fields : Fields} (hrun : RunsTo [] members fields) :
      Expr.Yields (.object members) (.object fields)
  | unknown {expr : Expr} (hunknown : expr.isUnknown = true) (value : Value) :
      Expr.Yields expr value

/-- The name of a member when it runs. A value in brackets that is no text is spelled somehow. -/
inductive Key.Names : Key → String → Prop where
  | identifier (name : String) : Key.Names (.identifier name) name
  | text (name : String) : Key.Names (.text (some name)) name
  | computed {inner : Expr} {name : String} (hinner : Expr.Yields inner (.text name)) :
      Key.Names (.computed inner) name
  | converted {inner : Expr} {value : Value} (hinner : Expr.Yields inner value)
      (hvalue : ∀ text, value ≠ .text text) (name : String) : Key.Names (.computed inner) name
  | unknown {key : Key} (hunknown : key.isUnknown = true) (name : String) : Key.Names key name

/-- One member added to the fields of an object. What is spread into an object and what a method or
an accessor gives is not known. -/
inductive Member.Adds : Fields → Member → Fields → Prop where
  | entry {fields : Fields} {key : Key} {expr : Expr} {name : String} {value : Value}
      (hname : Key.Names key name) (hvalue : Expr.Yields expr value) :
      Member.Adds fields (.entry key expr) (setField fields name value)
  | shorthand (fields : Fields) (name : String) (value : Value) :
      Member.Adds fields (.shorthand name) (setField fields name value)
  | shorthandDefault (fields : Fields) (name : String) (expr : Expr) (value : Value) :
      Member.Adds fields (.shorthandDefault name expr) (setField fields name value)
  | spread (fields : Fields) (expr : Expr) (assignments : Fields) :
      Member.Adds fields (.spread expr) (assignAll fields assignments)
  | method {fields : Fields} {key : Key} {name : String} (hname : Key.Names key name)
      (value : Value) : Member.Adds fields (.method key) (setField fields name value)

inductive RunsTo : Fields → List Member → Fields → Prop where
  | nil (fields : Fields) : RunsTo fields [] fields
  | cons {fields next result : Fields} {member : Member} {rest : List Member}
      (hmember : Member.Adds fields member next) (hrest : RunsTo next rest result) :
      RunsTo fields (member :: rest) result

end

/-! ### Every expression yields something -/

mutual

theorem Expr.exists_yields : ∀ expr : Expr, ∃ value, expr.Yields value
  | .null => ⟨_, .null⟩
  | .boolean value => ⟨_, .boolean value⟩
  | .number value => ⟨_, .number value⟩
  | .text (some value) => ⟨_, .text value⟩
  | .template (some value) => ⟨_, .template value⟩
  | .group inner =>
    let ⟨value, hinner⟩ := inner.exists_yields
    ⟨value, .group hinner⟩
  | .typed _ inner =>
    let ⟨value, hinner⟩ := inner.exists_yields
    ⟨value, .typed hinner⟩
  | .object members =>
    let ⟨_, hrun⟩ := exists_runsTo members []
    ⟨_, .object hrun⟩
  | .text none | .template none | .list _ | .sequence _ _ | .identifier _ | .dynamic _ _ =>
    ⟨.null, .unknown rfl .null⟩

theorem Key.exists_names : ∀ key : Key, ∃ name, key.Names name
  | .identifier name => ⟨name, .identifier name⟩
  | .text (some name) => ⟨name, .text name⟩
  | .text none | .number _ | .bigint => ⟨"", .unknown rfl ""⟩
  | .computed inner =>
    match inner.exists_yields with
    | ⟨.text name, hinner⟩ => ⟨name, .computed hinner⟩
    | ⟨.null, hinner⟩ | ⟨.boolean _, hinner⟩ | ⟨.number _, hinner⟩ | ⟨.list _, hinner⟩
    | ⟨.object _, hinner⟩ => ⟨"", .converted hinner (by simp) ""⟩

theorem Member.exists_adds : ∀ (member : Member) (fields : Fields), ∃ next, member.Adds fields next
  | .entry key expr, _ =>
    let ⟨_, hname⟩ := key.exists_names
    let ⟨_, hvalue⟩ := expr.exists_yields
    ⟨_, .entry hname hvalue⟩
  | .shorthand name, fields => ⟨_, .shorthand fields name .null⟩
  | .shorthandDefault name expr, fields => ⟨_, .shorthandDefault fields name expr .null⟩
  | .spread expr, fields => ⟨_, .spread fields expr []⟩
  | .method key, _ =>
    let ⟨_, hname⟩ := key.exists_names
    ⟨_, .method hname .null⟩

theorem exists_runsTo : ∀ (members : List Member) (fields : Fields), ∃ result,
    RunsTo fields members result
  | [], fields => ⟨fields, .nil fields⟩
  | member :: rest, fields =>
    let ⟨next, hmember⟩ := member.exists_adds fields
    let ⟨result, hrest⟩ := exists_runsTo rest next
    ⟨result, .cons hmember hrest⟩

end

theorem Expr.Yields.unwrap {expr : Expr} {value : Value} (hyields : expr.Yields value) :
    expr.unwrap.Yields value := by
  induction expr using Expr.unwrap.induct with
  | case1 inner ih =>
      cases hyields with
      | group hinner => exact ih hinner
      | unknown hunknown => simp [Expr.isUnknown] at hunknown
  | case2 wrapper inner ih =>
      cases hyields with
      | typed hinner => exact ih hinner
      | unknown hunknown => simp [Expr.isUnknown] at hunknown
  | case3 expr hgroup htyped =>
      rw [Expr.unwrap]
      · exact hyields
      · exact hgroup
      · exact htyped

end UtilityClasses.Script
