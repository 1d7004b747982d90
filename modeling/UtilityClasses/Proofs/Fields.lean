import UtilityClasses.Proofs.Entries
import UtilityClasses.Proofs.Runtime

/-!
# Fields that are set one by one

An object is built by setting its fields in turn. A key that is new is put at the end, and what is
found under a key is what was set last.
-/

namespace UtilityClasses

open Json (Value Fields setField)
open Script (assignAll)

variable {known assignments : Fields} {key : String}

theorem setField_new (hnew : key ∉ known.map Prod.fst) (value : Value) :
    setField known key value = known ++ [(key, value)] := by
  induction known with
  | nil => rfl
  | cons field rest ih =>
      rw [List.map_cons, List.mem_cons, not_or] at hnew
      rw [setField, if_neg (Ne.symm hnew.1), ih hnew.2, List.cons_append]

/-- When no key is repeated, the next key is new. -/
theorem key_new {field : String × Value} {rest : Fields}
    (hkeys : ((known ++ field :: rest).map Prod.fst).Nodup) : field.1 ∉ known.map Prod.fst := by
  rw [List.map_append, List.map_cons] at hkeys
  intro hmem
  exact (List.nodup_append.1 hkeys).2.2 field.1 hmem field.1 List.mem_cons_self rfl

/-- When no key is repeated, the fields are put behind those that are there. -/
theorem assignAll_new (hkeys : ((known ++ assignments).map Prod.fst).Nodup) :
    assignAll known assignments = known ++ assignments := by
  induction assignments generalizing known with
  | nil => exact (List.append_nil known).symm
  | cons field rest ih =>
      have hset := setField_new (key_new hkeys) field.2
      rw [List.append_cons] at hkeys ⊢
      rw [assignAll, List.foldl_cons, hset]
      exact ih hkeys

/-! ### Looking a field up -/

theorem lookup_setField (known : Fields) (key other : String) (value : Value) :
    (setField known key value).lookup other
      = if other = key then some value else known.lookup other := by
  induction known with
  | nil => exact lookup_cons_eq key other value []
  | cons field rest ih =>
      obtain ⟨name, found⟩ := field
      rw [setField]
      by_cases hname : name = key
      · rw [if_pos hname, lookup_cons_eq, lookup_cons_eq, hname]
        split <;> rfl
      · rw [if_neg hname, lookup_cons_eq, lookup_cons_eq, ih]
        by_cases hother : other = name
        · have hne : other ≠ key := hother ▸ hname
          rw [if_pos hother, if_pos hother, if_neg hne]
        · rw [if_neg hother, if_neg hother]

end UtilityClasses
