import Mathlib.Data.Prod.Lex
import UtilityClasses.Proofs.Occurrences

/-!
# The order of the calls of a text

Calls are found from left to right, so their positions, lines before columns, strictly increase. No
two calls of a text are reported at one position.
-/

namespace UtilityClasses.Source

def Place.position (place : Place) : Nat ×ₗ Nat := toLex (place.line, place.column)

def CallSite.position (site : CallSite) : Nat ×ₗ Nat := toLex (site.line, site.column)

variable {name before text : List Char}

/-- A line end leads to a later line, any other character to a later column. -/
theorem position_lt_next (before : List Char) (char : Char) (here behind : List Char) :
    (⟨before, here⟩ : Place).position < (⟨char :: before, behind⟩ : Place).position := by
  rw [Place.position, Place.position, Prod.Lex.toLex_lt_toLex]
  by_cases hline : char = '\n'
  · subst hline
    refine Or.inl ?_
    simp only [Place.line, List.count_cons_self]
    omega
  · have hstay : (char :: before).count '\n' = before.count '\n' := List.count_cons_of_ne hline
    refine Or.inr ⟨?_, ?_⟩
    · simp only [Place.line, hstay]
    · simp only [Place.column, List.takeWhile_cons, bne_iff_ne.2 hline, if_true, List.length_cons]
      omega

theorem position_le_of_mem_placesFrom {place : Place} (hplace : place ∈ placesFrom before text) :
    (⟨before, text⟩ : Place).position ≤ place.position := by
  induction text generalizing before with
  | nil => simp [placesFrom] at hplace
  | cons char rest ih =>
      rcases List.mem_cons.1 hplace with rfl | hplace
      · exact le_rfl
      · exact (position_lt_next before char (char :: rest) rest).le.trans (ih hplace)

theorem placesFrom_pairwise (before text : List Char) :
    (placesFrom before text).Pairwise fun left right => left.position < right.position := by
  induction text generalizing before with
  | nil => exact .nil
  | cons char rest ih =>
      refine .cons (fun place hplace => ?_) (ih (char :: before))
      exact (position_lt_next before char (char :: rest) rest).trans_le
        (position_le_of_mem_placesFrom hplace)

/-- A search without overlap goes through the places in their order. -/
theorem occurrencesFrom_sublist (name before : List Char) (skip : Nat) (text : List Char) :
    (occurrencesFrom name before skip text).Sublist (placesFrom before text) := by
  induction text generalizing before skip with
  | nil => exact .slnil
  | cons char rest ih =>
      cases skip with
      | succ skip => exact (ih (char :: before) skip).cons _
      | zero =>
          rw [occurrencesFrom, placesFrom]
          split
          · exact (ih (char :: before) (name.length - 1)).cons_cons _
          · exact (ih (char :: before) 0).cons _

theorem occurrences_sublist (name text : List Char) :
    (occurrences name text).Sublist (placesFrom [] text) := by
  rw [occurrences]
  split
  · exact List.nil_sublist _
  · exact occurrencesFrom_sublist name [] 0 text

theorem position_callSiteAt {place : Place} {site : CallSite}
    (hsite : callSiteAt name place = some site) : site.position = place.position := by
  rw [callSiteAt] at hsite
  split at hsite
  · split at hsite
    · exact absurd hsite nofun
    · rw [← Option.some.inj hsite]
      rfl
  · rw [← Option.some.inj hsite]
    rfl

/-- **The positions of the calls strictly increase**, whatever the name. -/
theorem callSites_pairwise (source name : String) :
    (callSites source name).Pairwise fun left right => left.position < right.position := by
  rw [callSites, List.pairwise_filterMap]
  have hplaces := (placesFrom_pairwise [] source.toList).sublist
    (occurrences_sublist name.toList source.toList)
  refine (hplaces.filter _).imp fun hlt left hleft right hright => ?_
  rw [position_callSiteAt hleft, position_callSiteAt hright]
  exact hlt

end UtilityClasses.Source
