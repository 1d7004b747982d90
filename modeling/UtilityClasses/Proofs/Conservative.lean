import UtilityClasses.Proofs.Coverage
import UtilityClasses.Proofs.Runtime

/-!
# Reduction loses no class to a condition

In a descriptor that is written out down to its styles, only the conditions of classes are left
open. Whatever such conditions yield when the descriptor is run, reducing it keeps every class that
is selected, because what is not known counts as true.
-/

namespace UtilityClasses

open Json (Value Fields setField)
open Script

/-! ### Descriptors that are written out -/

/-- The name that a key spells: an identifier, a text, or a text in brackets. -/
def Script.Key.written? : Key → Option String
  | .identifier name => some name
  | .text value => value
  | .computed inner => inner.spelled?
  | .number _ | .bigint => none

/-- Every member has a name that is spelled out and an expression that is fit for it. A shorthand
stands for the identifier of its name. -/
def MembersMeet (fit : String → Expr → Prop) (members : List Member) : Prop :=
  ∀ member ∈ members, match member with
    | .entry key expr => ∃ name, key.written? = some name ∧ fit name expr
    | .shorthand name => fit name (.identifier name)
    | _ => False

/-- An object, maybe in groups and wrappers, whose members are fit for their names. -/
def IsObjectOf (fit : String → Expr → Prop) (expr : Expr) : Prop :=
  ∃ members, expr.unwrap = .object members ∧ MembersMeet fit members

def IsStyleLiteral (expr : Expr) : Prop :=
  (∃ text, expr.spelled? = some text) ∨ IsObjectOf (fun _ _ => True) expr

/-- A text, or an object in which the key of every state has a style. -/
def IsDarkLiteral (expr : Expr) : Prop :=
  (∃ text, expr.spelled? = some text) ∨
    IsObjectOf (fun name entry => (State.ofKey? name).isSome = true → IsStyleLiteral entry) expr

/-- An object in which the key of every state has a style, and the dark slot one of its kind. -/
def IsBundleLiteral (expr : Expr) : Prop :=
  IsObjectOf (fun name entry => if name = darkKey then IsDarkLiteral entry
    else (State.ofKey? name).isSome = true → IsStyleLiteral entry) expr

/-- An object in which the key of every breakpoint has a bundle. -/
def IsDescriptorLiteral (expr : Expr) : Prop :=
  IsObjectOf (fun name entry => (Breakpoint.ofKey? name).isSome = true → IsBundleLiteral entry) expr

/-! ### Reduction beside running -/

theorem reduce_unwrap (expr : Expr) : reduce expr.unwrap = reduce expr := by
  induction expr using Expr.unwrap.induct with
  | case1 inner ih => rw [Expr.unwrap, ih, reduce]
  | case2 wrapper inner ih => rw [Expr.unwrap, ih, reduce]
  | case3 expr hgroup htyped =>
      rw [Expr.unwrap]
      · exact hgroup
      · exact htyped

theorem reduce_of_isUnknown {expr : Expr} (hunknown : expr.isUnknown = true) :
    reduce expr = .boolean true := by
  unfold Expr.isUnknown at hunknown
  split at hunknown <;> simp_all [reduce, textOrTrue]

/-- An expression that may yield something true is not reduced to something false. -/
theorem staysTruthy_reduce {expr : Expr} {value : Value} (hyields : expr.Yields value) :
    StaysTruthy value (reduce expr) := by
  intro htruthy
  induction expr using Expr.unwrap.induct with
  | case1 inner ih =>
      cases hyields with
      | group hinner =>
          rw [reduce]
          exact ih hinner
      | unknown hunknown => simp [Expr.isUnknown] at hunknown
  | case2 wrapper inner ih =>
      cases hyields with
      | typed hinner =>
          rw [reduce]
          exact ih hinner
      | unknown hunknown => simp [Expr.isUnknown] at hunknown
  | case3 expr hgroup htyped =>
      cases hyields with
      | null => simp [Value.isTruthy] at htruthy
      | boolean => simpa [reduce] using htruthy
      | number => simp [reduce, Value.isTruthy]
      | text => simpa [reduce, textOrTrue] using htruthy
      | template => simpa [reduce, textOrTrue] using htruthy
      | group => exact absurd rfl (hgroup _)
      | typed => exact absurd rfl (htyped _ _)
      | object => simp [reduce, Value.isTruthy]
      | unknown hunknown =>
          rw [reduce_of_isUnknown hunknown]
          rfl

/-! ### Names of members -/

theorem Script.Key.name?_of_written {key : Key} {name : String}
    (hwritten : key.written? = some name) : key.name? = some name := by
  cases key with
  | identifier => exact hwritten
  | text => exact hwritten
  | number => simp [Key.written?] at hwritten
  | bigint => simp [Key.written?] at hwritten
  | computed inner => exact hwritten

theorem Script.Expr.Yields.eq_text {expr : Expr} {value : Value} {text : String}
    (hyields : expr.Yields value) (htext : expr.spelled? = some text) : value = .text text := by
  have hinner := hyields.unwrap
  unfold Expr.spelled? at htext
  generalize expr.unwrap = inner at hinner htext
  cases hinner with
  | text => simpa using htext
  | template => simpa using htext
  | unknown hunknown =>
      cases inner with
      | text => cases htext; simp [Expr.isUnknown] at hunknown
      | template => cases htext; simp [Expr.isUnknown] at hunknown
      | _ => simp at htext
  | _ => simp at htext

/-- A key that is spelled out names its member so, whenever it is run. -/
theorem Script.Key.Names.eq_written {key : Key} {name other : String} (hnames : key.Names other)
    (hwritten : key.written? = some name) : other = name := by
  cases hnames with
  | identifier => simpa [Key.written?] using hwritten
  | text => simpa [Key.written?] using hwritten
  | computed hinner => simpa using hinner.eq_text hwritten
  | converted hinner hvalue => exact absurd (hinner.eq_text hwritten) (hvalue name)
  | unknown hunknown =>
      cases key with
      | text => cases hwritten; simp [Key.isUnknown] at hunknown
      | _ => simp_all [Key.isUnknown, Key.written?]

/-! ### Objects -/

variable {fit : String → Expr → Prop} {related : String → Value → Value → Prop}

theorem reduceMembers_cons (fields : Fields) (member : Member) (rest : List Member) :
    reduceMembers fields (member :: rest) = reduceMembers (reduceMember fields member) rest := by
  rw [reduceMembers]

/-- One member keeps the fields of an object and of its reduction related. -/
theorem covers_reduceMember {member : Member} {fields reduced next : Fields}
    (hfit : ∀ name expr value, fit name expr → expr.Yields value →
      related name value (reduce expr))
    (hmember : MembersMeet fit [member]) (hcovers : Covers related fields reduced)
    (hadds : member.Adds fields next) : Covers related next (reduceMember reduced member) := by
  have hmeets := hmember member (by simp)
  cases hadds with
  | @entry _ key expr other value hnames hvalue =>
      obtain ⟨name, hwritten, hexpr⟩ := hmeets
      obtain rfl : other = name := hnames.eq_written hwritten
      simp only [reduceMember, Key.name?_of_written hwritten]
      exact hcovers.setField (hfit other expr value hexpr hvalue)
  | shorthand _ name value =>
      rw [reduceMember]
      have hvalue := hfit name (.identifier name) value hmeets (.unknown rfl value)
      exact hcovers.setField (by simpa [reduce] using hvalue)
  | shorthandDefault => exact hmeets.elim
  | spread => exact hmeets.elim
  | method => exact hmeets.elim

/-- So does a run through all members, when every member keeps its value and its reduction related.
-/
theorem covers_reduceMembers {members : List Member} {fields reduced result : Fields}
    (hfit : ∀ name expr value, fit name expr → expr.Yields value →
      related name value (reduce expr))
    (hmembers : MembersMeet fit members) (hcovers : Covers related fields reduced)
    (hrun : RunsTo fields members result) :
    Covers related result (reduceMembers reduced members) := by
  induction members generalizing fields reduced with
  | nil =>
      cases hrun
      rwa [reduceMembers]
  | cons member rest ih =>
      cases hrun with
      | cons hadds hrest =>
          rw [reduceMembers_cons]
          have hfirst : MembersMeet fit [member] := by
            intro other hother
            obtain rfl := List.mem_singleton.1 hother
            exact hmembers other (by simp)
          refine ih (fun other hother => hmembers other (List.mem_cons_of_mem _ hother)) ?_ hrest
          exact covers_reduceMember hfit hfirst hcovers hadds

/-- An object of members that fit yields fields that its reduction covers. -/
theorem covers_reduce {expr : Expr} {value : Value}
    (hfit : ∀ name entry value, fit name entry → entry.Yields value →
      related name value (reduce entry))
    (hobject : IsObjectOf fit expr) (hyields : expr.Yields value) :
    ∃ fields others, value = .object fields ∧ reduce expr = .object others
      ∧ Covers related fields others := by
  obtain ⟨members, hunwrap, hmembers⟩ := hobject
  have hinner := hyields.unwrap
  rw [← reduce_unwrap, hunwrap, reduce]
  rw [hunwrap] at hinner
  cases hinner with
  | object hrun => exact ⟨_, _, rfl, rfl, covers_reduceMembers hfit hmembers .nil hrun⟩
  | unknown hunknown => simp [Expr.isUnknown] at hunknown

theorem reduce_spelled {expr : Expr} {text : String} (htext : expr.spelled? = some text) :
    reduce expr = .text text := by
  rw [← reduce_unwrap]
  unfold Expr.spelled? at htext
  split at htext
  · next hunwrap => rw [hunwrap, htext, reduce, textOrTrue]
  · next hunwrap => rw [hunwrap, htext, reduce, textOrTrue]
  · simp at htext

/-! ### Level by level -/

theorem styleCovers_reduce {expr : Expr} {value : Value} (hliteral : IsStyleLiteral expr)
    (hyields : expr.Yields value) : StyleCovers value (reduce expr) := by
  rcases hliteral with ⟨text, htext⟩ | hobject
  · rw [hyields.eq_text htext, reduce_spelled htext]
    exact .text text
  · have hfit : ∀ (name : String) (entry : Expr) (value : Value), True → entry.Yields value →
        StaysTruthy value (reduce entry) := fun _ _ _ _ hentry => staysTruthy_reduce hentry
    obtain ⟨fields, others, rfl, hreduce, hcovers⟩ := covers_reduce hfit hobject hyields
    rw [hreduce]
    exact .object hcovers

theorem darkCovers_reduce {expr : Expr} {value : Value} (hliteral : IsDarkLiteral expr)
    (hyields : expr.Yields value) : DarkCovers value (reduce expr) := by
  rcases hliteral with ⟨text, htext⟩ | hobject
  · rw [hyields.eq_text htext, reduce_spelled htext]
    exact .text text
  · have hfit : ∀ name entry value,
        ((State.ofKey? name).isSome = true → IsStyleLiteral entry) → entry.Yields value →
        DarkEntryCovers name value (reduce entry) := fun _ _ _ hstyle hentry =>
      ⟨staysTruthy_reduce hentry, fun hstate => styleCovers_reduce (hstyle hstate) hentry⟩
    obtain ⟨fields, others, rfl, hreduce, hcovers⟩ := covers_reduce hfit hobject hyields
    rw [hreduce]
    exact .object hcovers

theorem bundleCovers_reduce {expr : Expr} {value : Value} (hliteral : IsBundleLiteral expr)
    (hyields : expr.Yields value) : BundleCovers value (reduce expr) := by
  have hfit : ∀ name entry value, (if name = darkKey then IsDarkLiteral entry
      else (State.ofKey? name).isSome = true → IsStyleLiteral entry) → entry.Yields value →
      BundleEntryCovers name value (reduce entry) := by
    intro name entry value hentry hvalue
    by_cases hdark : name = darkKey
    · rw [if_pos hdark] at hentry
      rw [BundleEntryCovers, if_pos hdark]
      exact darkCovers_reduce hentry hvalue
    · rw [if_neg hdark] at hentry
      rw [BundleEntryCovers, if_neg hdark]
      exact fun hstate => styleCovers_reduce (hentry hstate) hvalue
  obtain ⟨fields, others, rfl, hreduce, hcovers⟩ := covers_reduce hfit hliteral hyields
  rw [hreduce]
  exact .object hcovers

/-- **Open conditions lose no class.** Whatever a written descriptor yields when it is run, its
classes are found in order among those of its reduction. -/
theorem reduce_keeps_classes {expr : Expr} {value : Value} (hliteral : IsDescriptorLiteral expr)
    (hyields : expr.Yields value) :
    (Text.wordsOf (resolveValue value)).Sublist (Text.wordsOf (resolveValue (reduce expr))) := by
  have hfit : ∀ name entry value,
      ((Breakpoint.ofKey? name).isSome = true → IsBundleLiteral entry) → entry.Yields value →
      DescriptorEntryCovers name value (reduce entry) :=
    fun _ _ _ hentry hvalue hkey => bundleCovers_reduce (hentry hkey) hvalue
  obtain ⟨fields, others, rfl, hreduce, hcovers⟩ := covers_reduce hfit hliteral hyields
  rw [hreduce]
  exact tokens_sublist_of_covers hcovers

/-- Of `({ base: { [`static`]: { 'a b': x, c } } as const })` the run that leaves out `a b` selects
a part of what the reduction selects. -/
theorem reduce_keeps_open_classes :
    let style : Expr := .object [.entry (.text (some "a b")) (.identifier "x"), .shorthand "c"]
    let bundle : Expr := .object [.entry (.computed (.template (some "static"))) style]
    let descriptor : Expr :=
      .group (.object [.entry (.identifier "base") (.typed .asConst bundle)])
    let value : Value := .object [("base", .object [("static",
      .object [("a b", .boolean false), ("c", .text "on")])])]
    IsDescriptorLiteral descriptor
      ∧ descriptor.Yields value
      ∧ (Text.wordsOf (resolveValue value)).Sublist
          (Text.wordsOf (resolveValue (reduce descriptor))) := by
  intro style bundle descriptor value
  have hliteral : IsDescriptorLiteral descriptor := by
    have hstyle : IsStyleLiteral style := by
      refine Or.inr ⟨_, rfl, ?_⟩
      simp [MembersMeet, Key.written?]
    refine ⟨_, rfl, List.forall_mem_singleton.2 ⟨"base", rfl, fun _ => ?_⟩⟩
    exact ⟨_, rfl, List.forall_mem_singleton.2 ⟨"static", rfl, fun _ => hstyle⟩⟩
  have hyields : descriptor.Yields value := by
    have hcondition : (Expr.identifier "x").Yields (.boolean false) := .unknown rfl _
    have hstyle := Expr.Yields.object (.cons (.entry (.text "a b") hcondition)
      (.cons (.shorthand _ "c" (.text "on")) (.nil _)))
    have hbundle := Expr.Yields.object
      (.cons (.entry (.computed (.template "static")) hstyle) (.nil _))
    exact .group (.object (.cons (.entry (.identifier "base") (.typed hbundle)) (.nil _)))
  exact ⟨hliteral, hyields, reduce_keeps_classes hliteral hyields⟩

end UtilityClasses
