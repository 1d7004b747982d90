import Mathlib.Data.List.Nodup
import UtilityClasses.Proofs.Paths

/-!
# The order of paths

Paths are ordered component by component, so two paths stand level exactly when they have the same
components. A list of paths whose components differ is sorted in one way only, and strictly.
-/

namespace UtilityClasses.FileSystem

namespace Component

/-- What a component spells besides its rank. -/
def text : Component → String
  | name text => text
  | _ => ""

theorem order_eq : order = compareLex (compareOn rank) (compareOn text) := by
  funext left right
  cases left <;> cases right <;> simp [order, compareLex, compareOn, rank, text] <;> rfl

instance : Std.TransCmp order := by
  rw [order_eq]
  infer_instance

instance : Std.LawfulEqCmp order where
  compare_self := Std.ReflCmp.compare_self
  eq_of_compare {left right} heq := by
    rw [order_eq, compareLex_eq_eq] at heq
    have hrank : left.rank = right.rank := Std.LawfulEqCmp.eq_of_compare heq.1
    have htext : left.text = right.text := Std.LawfulEqCmp.eq_of_compare heq.2
    cases left <;> cases right <;> simp_all [rank, text]

end Component

variable {paths others : List String} {left right directory name : String} {names : Location}

/-! ### Components of joined paths -/

/-- The name that is joined to a path is its last component. -/
theorem components_join (hdirectory : directory ≠ "") (hname : isEntryName name = true) :
    Path.components (Path.join directory name) = Path.components directory ++ [.name name] := by
  obtain ⟨hempty, hdot, hdots, -⟩ := isEntryName_iff.1 hname
  have hlast : Path.laterComponent name = some (.name name) := by
    simp [Path.laterComponent, hempty, hdot, hdots]
  obtain ⟨above, hjoin, hwhole⟩ := segments_join hdirectory hname
  cases above with
  | nil =>
      rcases hwhole with hnone | hslash
      · exact absurd hnone (segments_ne_nil directory)
      · exact absurd (segments_injective (hslash.trans segments_empty.symm)) hdirectory
  | cons first above =>
      have hfirst : Path.firstComponent (Path.join directory name) first
          = Path.firstComponent directory first := by
        rw [Path.firstComponent, Path.firstComponent, isAbsolute_join hdirectory hname]
      have hslash : Path.laterComponent "" = none := by decide
      rw [Path.components, Path.components, hjoin, List.cons_append]
      rcases hwhole with hwhole | hwhole
      · rw [hwhole]
        simp only [hfirst, List.filterMap_append, List.filterMap_cons, hlast, List.filterMap_nil,
          List.append_assoc]
      · rw [hwhole, List.cons_append]
        simp only [hfirst, List.filterMap_append, List.filterMap_cons, hlast, hslash,
          List.filterMap_nil, List.append_nil, List.append_assoc]

theorem components_foldl (hdirectory : directory ≠ "")
    (hnames : ∀ name ∈ names, isEntryName name = true) :
    Path.components (names.foldl Path.join directory)
      = Path.components directory ++ names.map .name := by
  induction names generalizing directory with
  | nil => rw [List.map_nil, List.append_nil, List.foldl_nil]
  | cons name rest ih =>
      obtain ⟨hname, hrest⟩ := List.forall_mem_cons.1 hnames
      rw [List.foldl_cons, ih (join_ne_empty hdirectory hname) hrest,
        components_join hdirectory hname, List.map_cons, List.append_assoc, List.singleton_append]

/-! ### Sorting -/

theorem compareComponents_eq : Path.compareComponents = List.compareLex Component.order := by
  funext left right
  induction left generalizing right with
  | nil => cases right <;> rfl
  | cons first lefts ih =>
      cases right with
      | nil => rfl
      | cons second rights =>
          rw [Path.compareComponents, List.compareLex_cons_cons, ih]

theorem order_eq_compareLex (left right : String) : Path.order left right
    = List.compareLex Component.order (Path.components left) (Path.components right) := by
  rw [Path.order, compareComponents_eq]

instance : Std.TransCmp Path.order where
  eq_swap {left right} := by
    rw [order_eq_compareLex, order_eq_compareLex right left]
    exact Std.OrientedCmp.eq_swap
  isLE_trans {first second third} := by
    rw [order_eq_compareLex, order_eq_compareLex, order_eq_compareLex]
    exact Std.TransCmp.isLE_trans

theorem components_eq_of_order (heq : Path.order left right = .eq) :
    Path.components left = Path.components right := by
  rw [order_eq_compareLex] at heq
  exact Std.LawfulEqCmp.eq_of_compare heq

theorem isLE_pathOrder (left right : String) :
    (Path.order left right != .gt) = (Path.order left right).isLE := by
  cases Path.order left right <;> rfl

theorem sortPaths_perm (paths : List String) : (sortPaths paths).Perm paths :=
  List.mergeSort_perm _ _

theorem pairwise_sortPaths (paths : List String) :
    (sortPaths paths).Pairwise fun left right => (Path.order left right != .gt) = true := by
  refine List.pairwise_mergeSort ?_ ?_ paths
  · intro first second third
    rw [isLE_pathOrder, isLE_pathOrder, isLE_pathOrder]
    exact Std.TransCmp.isLE_trans
  · intro left right
    have hswap : Path.order right left = (Path.order left right).swap := Std.OrientedCmp.eq_swap
    rw [isLE_pathOrder, isLE_pathOrder, hswap]
    cases Path.order left right <;> rfl

/-- Paths whose components differ are sorted strictly. -/
theorem sortPaths_increasing (hdistinct : (paths.map Path.components).Nodup) :
    (sortPaths paths).Pairwise fun left right => List.compareLex Component.order
      (Path.components left) (Path.components right) = .lt := by
  have hsorted : ((sortPaths paths).map Path.components).Nodup :=
    ((sortPaths_perm paths).map _).nodup_iff.2 hdistinct
  rw [List.nodup_iff_pairwise_ne, List.pairwise_map] at hsorted
  refine ((pairwise_sortPaths paths).and hsorted).imp ?_
  intro left right hboth
  rw [← order_eq_compareLex]
  cases horder : Path.order left right with
  | lt => rfl
  | eq => exact absurd (components_eq_of_order horder) hboth.2
  | gt => exact absurd hboth.1 (by rw [horder]; decide)

/-- **Sorting forgets the order in which paths came**, if their components differ. -/
theorem sortPaths_congr (hperm : paths.Perm others) (hdistinct : (paths.map Path.components).Nodup) :
    sortPaths paths = sortPaths others := by
  have hall : (sortPaths paths).Perm (sortPaths others) :=
    (sortPaths_perm paths).trans (hperm.trans (sortPaths_perm others).symm)
  refine hall.eq_of_pairwise ?_ (pairwise_sortPaths paths) (pairwise_sortPaths others)
  intro left right hleft hright hbefore hbehind
  rw [isLE_pathOrder] at hbefore hbehind
  have heq := components_eq_of_order (Std.OrientedCmp.isLE_antisymm hbefore hbehind)
  have hleft := (sortPaths_perm paths).mem_iff.1 hleft
  have hright := hperm.mem_iff.2 ((sortPaths_perm others).mem_iff.1 hright)
  exact List.inj_on_of_nodup_map hdistinct hleft hright heq

end UtilityClasses.FileSystem
