import UtilityClasses.Evaluation
import UtilityClasses.Proofs.Coverage
import UtilityClasses.Proofs.Fields
import UtilityClasses.Proofs.LiteralReading

/-!
# Reducing a literal keeps what it selects

Reducing turns numbers, nulls and lists into true, so it may select more classes than the value that
the literal spells. It never selects fewer: texts and objects stay what they are at every level.
-/

namespace UtilityClasses

open Json (Value Fields setField fieldsAreJson)
open Script

variable {related : String → Value → Value → Prop} {fields known reduced : Fields}
  {members : List Member} {value : Value} {expr : Expr}

/-! ### Objects -/

/-- When no key is repeated, the members of an object add its fields one by one. -/
theorem covers_spelled (hspells : SpellsFields fields members) (hjson : fieldsAreJson fields)
    (hrelated : ∀ key {value expr}, value.IsJson → Spells value expr →
      related key value (reduce expr))
    (hkeys : ((known ++ fields).map Prod.fst).Nodup) (hcovers : Covers related known reduced) :
    Covers related (known ++ fields) (reduceMembers reduced members) := by
  induction members generalizing fields known reduced with
  | nil =>
      cases hspells
      rwa [reduceMembers, List.append_nil]
  | cons member rest ih =>
      cases hspells with
      | @cons key value expr fields _ hvalue hfields =>
          have hentry : related key value (reduce expr) := hrelated key hjson.1 hvalue
          -- The key is new, so setting it appends the field on the side of the value.
          have hmember : Covers related (known ++ [(key, value)])
              (setField reduced key (reduce expr)) := by
            rw [← setField_new (key_new hkeys)]
            exact hcovers.setField hentry
          rw [reduceMembers, reduceMember, Key.name?, List.append_cons]
          exact ih hfields hjson.2 (by rwa [List.append_assoc]) hmember

/-- The reduction of an object covers it, if that of every value covers the value. -/
theorem covers_object (hjson : (Value.object fields).IsJson)
    (hspells : Spells (.object fields) expr)
    (hrelated : ∀ key {value expr}, value.IsJson → Spells value expr →
      related key value (reduce expr)) :
    ∃ others, reduce expr = .object others ∧ Covers related fields others := by
  cases hspells with
  | object hfields =>
      have hkeys : (([] ++ fields).map Prod.fst).Nodup := hjson.1
      rw [reduce]
      exact ⟨_, rfl, covers_spelled hfields hjson.2 hrelated hkeys .nil⟩

/-! ### Level by level -/

theorem staysTruthy_spelled (hspells : Spells value expr) : StaysTruthy value (reduce expr) := by
  intro htruthy
  cases hspells with
  | boolean => rwa [reduce]
  | text => rwa [reduce, textOrTrue]
  | null => exact absurd htruthy (by decide)
  | _ => simp [reduce, Value.isTruthy]

theorem styleCovers_spelled (hjson : value.IsJson) (hspells : Spells value expr) :
    StyleCovers value (reduce expr) := by
  cases value with
  | text words =>
      cases hspells
      rw [reduce, textOrTrue]
      exact .text words
  | object fields =>
      obtain ⟨others, hreduce, hcovers⟩ := covers_object hjson hspells
        fun _ _ _ _ hvalue => staysTruthy_spelled hvalue
      rw [hreduce]
      exact .object hcovers
  | _ => exact .absent rfl _

theorem darkCovers_spelled (hjson : value.IsJson) (hspells : Spells value expr) :
    DarkCovers value (reduce expr) := by
  cases value with
  | text words =>
      cases hspells
      rw [reduce, textOrTrue]
      exact .text words
  | object fields =>
      have hentry (key : String) {value : Value} {expr : Expr} (hjson : value.IsJson)
          (hvalue : Spells value expr) : DarkEntryCovers key value (reduce expr) :=
        ⟨staysTruthy_spelled hvalue, fun _ => styleCovers_spelled hjson hvalue⟩
      obtain ⟨others, hreduce, hcovers⟩ := covers_object hjson hspells hentry
      rw [hreduce]
      exact .object hcovers
  | _ => exact .absent rfl _

theorem bundleCovers_spelled (hjson : value.IsJson) (hspells : Spells value expr) :
    BundleCovers value (reduce expr) := by
  cases value with
  | object fields =>
      have hentry (key : String) {value : Value} {expr : Expr} (hjson : value.IsJson)
          (hvalue : Spells value expr) : BundleEntryCovers key value (reduce expr) := by
        rw [BundleEntryCovers]
        split
        · exact darkCovers_spelled hjson hvalue
        · exact fun _ => styleCovers_spelled hjson hvalue
      obtain ⟨others, hreduce, hcovers⟩ := covers_object hjson hspells hentry
      rw [hreduce]
      exact .object hcovers
  | _ => exact .absent rfl _

/-- **Reducing a literal loses no token** of the value that it spells. -/
theorem tokens_sublist_spelled (hjson : (Value.object fields).IsJson)
    (hspells : Spells (.object fields) expr) :
    (Text.wordsOf (resolveValue (.object fields))).Sublist
      (Text.wordsOf (resolveValue (reduce expr))) := by
  have hentry (key : String) {value : Value} {expr : Expr} (hjson : value.IsJson)
      (hvalue : Spells value expr) : DescriptorEntryCovers key value (reduce expr) :=
    fun _ => bundleCovers_spelled hjson hvalue
  obtain ⟨others, hreduce, hcovers⟩ := covers_object hjson hspells hentry
  rw [hreduce]
  exact tokens_sublist_of_covers hcovers

end UtilityClasses
