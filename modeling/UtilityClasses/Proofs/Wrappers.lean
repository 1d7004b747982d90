import UtilityClasses.Evaluation

/-!
# Groups and wrappers are transparent

Parentheses and wrappers that only speak about types may stand around any expression: the whole one,
the values and keys of members, items and operands. Erasing all of them leaves a bare expression that
is reduced to the same value, with its fields in the same order.
-/

namespace UtilityClasses

namespace Script

/-! ### Erasure -/

mutual

/-- The expression without groups and wrappers at any depth. -/
def Expr.erase : Expr → Expr
  | .group inner => inner.erase
  | .typed _ inner => inner.erase
  | .object members => .object (eraseMembers members)
  | .list items => .list (eraseItems items)
  | .sequence first others => .sequence first.erase (eraseItems others)
  | .dynamic form operands => .dynamic form (eraseItems operands)
  | expr => expr

def eraseItems : List Expr → List Expr
  | [] => []
  | item :: rest => item.erase :: eraseItems rest

def Key.erase : Key → Key
  | .computed inner => .computed inner.erase
  | key => key

def Member.erase : Member → Member
  | .entry key value => .entry key.erase value.erase
  | .shorthand name => .shorthand name
  | .shorthandDefault name value => .shorthandDefault name value.erase
  | .spread value => .spread value.erase
  | .method key => .method key.erase

def eraseMembers : List Member → List Member
  | [] => []
  | member :: rest => member.erase :: eraseMembers rest

end

mutual

/-- Whether no group and no wrapper stands anywhere in the expression. -/
def Expr.isBare : Expr → Bool
  | .group _ | .typed _ _ => false
  | .object members => membersAreBare members
  | .list items => itemsAreBare items
  | .sequence first others => first.isBare && itemsAreBare others
  | .dynamic _ operands => itemsAreBare operands
  | _ => true

def itemsAreBare : List Expr → Bool
  | [] => true
  | item :: rest => item.isBare && itemsAreBare rest

def Key.isBare : Key → Bool
  | .computed inner => inner.isBare
  | _ => true

def Member.isBare : Member → Bool
  | .entry key value => key.isBare && value.isBare
  | .shorthand _ => true
  | .shorthandDefault _ value => value.isBare
  | .spread value => value.isBare
  | .method key => key.isBare

def membersAreBare : List Member → Bool
  | [] => true
  | member :: rest => member.isBare && membersAreBare rest

end

/-! ### What is left is bare, and what is bare is left -/

mutual

theorem Expr.isBare_erase : (expr : Expr) → expr.erase.isBare = true
  | .group inner => by
      rw [Expr.erase]
      exact inner.isBare_erase
  | .typed _ inner => by
      rw [Expr.erase]
      exact inner.isBare_erase
  | .object members => by
      rw [Expr.erase, Expr.isBare]
      exact membersAreBare_erase members
  | .list items => by
      rw [Expr.erase, Expr.isBare]
      exact itemsAreBare_erase items
  | .sequence first others => by
      rw [Expr.erase, Expr.isBare, first.isBare_erase, itemsAreBare_erase others, Bool.and_true]
  | .dynamic _ operands => by
      rw [Expr.erase, Expr.isBare]
      exact itemsAreBare_erase operands
  | .null | .boolean _ | .number _ | .text _ | .template _ | .identifier _ => rfl

theorem itemsAreBare_erase : (items : List Expr) → itemsAreBare (eraseItems items) = true
  | [] => rfl
  | item :: rest => by
      rw [eraseItems, itemsAreBare, item.isBare_erase, itemsAreBare_erase rest, Bool.and_true]

theorem Key.isBare_erase : (key : Key) → key.erase.isBare = true
  | .computed inner => by
      rw [Key.erase, Key.isBare]
      exact inner.isBare_erase
  | .identifier _ | .text _ | .number _ | .bigint => rfl

theorem Member.isBare_erase : (member : Member) → member.erase.isBare = true
  | .entry key value => by
      rw [Member.erase, Member.isBare, key.isBare_erase, value.isBare_erase, Bool.and_true]
  | .shorthand _ => rfl
  | .shorthandDefault _ value => by
      rw [Member.erase, Member.isBare]
      exact value.isBare_erase
  | .spread value => by
      rw [Member.erase, Member.isBare]
      exact value.isBare_erase
  | .method key => by
      rw [Member.erase, Member.isBare]
      exact key.isBare_erase

theorem membersAreBare_erase :
    (members : List Member) → membersAreBare (eraseMembers members) = true
  | [] => rfl
  | member :: rest => by
      rw [eraseMembers, membersAreBare, member.isBare_erase, membersAreBare_erase rest,
        Bool.and_true]

end

mutual

theorem Expr.erase_of_isBare : (expr : Expr) → expr.isBare = true → expr.erase = expr
  | .group _, hbare => by
      rw [Expr.isBare] at hbare
      exact absurd hbare Bool.false_ne_true
  | .typed _ _, hbare => by
      rw [Expr.isBare] at hbare
      exact absurd hbare Bool.false_ne_true
  | .object members, hbare => by
      rw [Expr.isBare] at hbare
      rw [Expr.erase, eraseMembers_of_areBare members hbare]
  | .list items, hbare => by
      rw [Expr.isBare] at hbare
      rw [Expr.erase, eraseItems_of_areBare items hbare]
  | .sequence first others, hbare => by
      rw [Expr.isBare, Bool.and_eq_true] at hbare
      rw [Expr.erase, first.erase_of_isBare hbare.1, eraseItems_of_areBare others hbare.2]
  | .dynamic _ operands, hbare => by
      rw [Expr.isBare] at hbare
      rw [Expr.erase, eraseItems_of_areBare operands hbare]
  | .null, _ | .boolean _, _ | .number _, _ | .text _, _ | .template _, _ | .identifier _, _ => rfl

theorem eraseItems_of_areBare :
    (items : List Expr) → itemsAreBare items = true → eraseItems items = items
  | [], _ => rfl
  | item :: rest, hbare => by
      rw [itemsAreBare, Bool.and_eq_true] at hbare
      rw [eraseItems, item.erase_of_isBare hbare.1, eraseItems_of_areBare rest hbare.2]

theorem Key.erase_of_isBare : (key : Key) → key.isBare = true → key.erase = key
  | .computed inner, hbare => by
      rw [Key.isBare] at hbare
      rw [Key.erase, inner.erase_of_isBare hbare]
  | .identifier _, _ | .text _, _ | .number _, _ | .bigint, _ => rfl

theorem Member.erase_of_isBare : (member : Member) → member.isBare = true → member.erase = member
  | .entry key value, hbare => by
      rw [Member.isBare, Bool.and_eq_true] at hbare
      rw [Member.erase, key.erase_of_isBare hbare.1, value.erase_of_isBare hbare.2]
  | .shorthand _, _ => rfl
  | .shorthandDefault _ value, hbare => by
      rw [Member.isBare] at hbare
      rw [Member.erase, value.erase_of_isBare hbare]
  | .spread value, hbare => by
      rw [Member.isBare] at hbare
      rw [Member.erase, value.erase_of_isBare hbare]
  | .method key, hbare => by
      rw [Member.isBare] at hbare
      rw [Member.erase, key.erase_of_isBare hbare]

theorem eraseMembers_of_areBare :
    (members : List Member) → membersAreBare members = true → eraseMembers members = members
  | [], _ => rfl
  | member :: rest, hbare => by
      rw [membersAreBare, Bool.and_eq_true] at hbare
      rw [eraseMembers, member.erase_of_isBare hbare.1, eraseMembers_of_areBare rest hbare.2]

end

theorem Expr.isBare_iff (expr : Expr) : expr.isBare = true ↔ expr.erase = expr := by
  constructor
  · exact expr.erase_of_isBare
  · intro herase
    rw [← herase]
    exact expr.isBare_erase

/-! ### Names of members -/

theorem Expr.spelled?_erase (expr : Expr) : expr.erase.spelled? = expr.spelled? := by
  induction expr using Expr.unwrap.induct with
  | case1 inner ih =>
      rw [Expr.erase]
      exact ih
  | case2 wrapper inner ih =>
      rw [Expr.erase]
      exact ih
  | case3 expr hgroup htyped =>
      cases expr with
      | group inner => exact absurd rfl (hgroup inner)
      | typed wrapper inner => exact absurd rfl (htyped wrapper inner)
      | _ => rfl

theorem Key.name?_erase (key : Key) : key.erase.name? = key.name? := by
  cases key with
  | computed inner =>
      rw [Key.erase]
      exact inner.spelled?_erase
  | _ => rfl

end Script

/-! ### Reduction sees through groups and wrappers -/

open Json (Fields)
open Script

mutual

theorem reduce_erase_eq : (expr : Expr) → reduce expr.erase = reduce expr
  | .group inner => by
      rw [Expr.erase, reduce]
      exact reduce_erase_eq inner
  | .typed _ inner => by
      rw [Expr.erase, reduce]
      exact reduce_erase_eq inner
  | .object members => by
      rw [Expr.erase, reduce, reduce, reduceMembers_erase]
  | .list _ | .sequence _ _ | .dynamic _ _ => rfl
  | .null | .boolean _ | .number _ | .text _ | .template _ | .identifier _ => rfl

theorem reduceMembers_erase (fields : Fields) :
    (members : List Member) → reduceMembers fields (eraseMembers members)
      = reduceMembers fields members
  | [] => rfl
  | member :: rest => by
      rw [eraseMembers, reduceMembers, reduceMembers, reduceMember_erase, reduceMembers_erase]

theorem reduceMember_erase (fields : Fields) :
    (member : Member) → reduceMember fields member.erase = reduceMember fields member
  | .entry key value => by
      rw [Member.erase, reduceMember, reduceMember, key.name?_erase, reduce_erase_eq value]
  | .shorthand _ | .shorthandDefault _ _ | .spread _ | .method _ => rfl

end

/-- **Groups and wrappers are transparent everywhere.** Erasing them leaves a bare expression, leaves
a bare expression alone, and changes nothing about the value that an expression is reduced to. -/
theorem reduce_erase (expr : Expr) :
    expr.erase.isBare = true
      ∧ (expr.isBare = true ↔ expr.erase = expr)
      ∧ reduce expr.erase = reduce expr :=
  ⟨expr.isBare_erase, expr.isBare_iff, reduce_erase_eq expr⟩

/-- Wrappers around a key, a style and the whole object. -/
example : (Expr.typed .satisfies (.group (.object [.entry (.computed (.typed .asConst (.text "md")))
      (.typed .nonNull (.group (.template "a")))]))).erase
    = .object [.entry (.computed (.text "md")) (.template "a")] := rfl

end UtilityClasses
