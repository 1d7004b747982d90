/-!
# Looking up in a list of entries

Entries are found under their names; the first one of a name is the one that counts.
-/

namespace UtilityClasses

variable {α : Type} {entries : List (String × α)} {name : String} {value : α}

theorem lookup_cons_eq (name other : String) (value : α) (rest : List (String × α)) :
    List.lookup other ((name, value) :: rest)
      = if other = name then some value else rest.lookup other := by
  rw [List.lookup_cons]
  by_cases hname : other = name
  · rw [if_pos hname, beq_iff_eq.2 hname]
  · rw [if_neg hname, beq_false_of_ne hname]

theorem mem_of_lookup (hlookup : entries.lookup name = some value) : (name, value) ∈ entries := by
  obtain ⟨before, after, rfl, -⟩ := List.lookup_eq_some_iff.1 hlookup
  exact List.mem_append_right _ List.mem_cons_self

/-- Where no name is repeated, every entry counts. -/
theorem lookup_of_mem (hnames : (entries.map Prod.fst).Nodup) (hmem : (name, value) ∈ entries) :
    entries.lookup name = some value := by
  obtain ⟨before, after, rfl⟩ := List.append_of_mem hmem
  refine List.lookup_eq_some_iff.2 ⟨before, after, rfl, fun entry hentry => ?_⟩
  rw [List.map_append, List.nodup_append] at hnames
  have hother := hnames.2.2 entry.1 (List.mem_map_of_mem hentry) name List.mem_cons_self
  exact bne_iff_ne.2 hother.symm

end UtilityClasses
