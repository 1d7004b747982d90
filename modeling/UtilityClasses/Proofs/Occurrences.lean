import UtilityClasses.Source.CallSite
import UtilityClasses.Text.Identifier

/-!
# The search without overlap loses no call

Names are searched from left to right without overlap, so a name may be passed over because an
earlier occurrence holds its first characters. A name that is passed over stands behind a character
of a name, and such a name starts no call. So the calls among the occurrences are the calls among
all places of the text.
-/

namespace UtilityClasses.Source

open UtilityClasses.Text

/-- Every place of a text, from left to right, with `before` in front of the first one. -/
def placesFrom (before : List Char) : List Char → List Place
  | [] => []
  | char :: rest => ⟨before, char :: rest⟩ :: placesFrom (char :: before) rest

def isCallPlace (name : List Char) (place : Place) : Bool :=
  name.isPrefixOf place.after && isCallStart name place

variable {name before text : List Char} {skip : Nat}

theorem isCallStart_of_continued {place : Place}
    (hcontinued : place.before.head?.any continuesName = true) :
    isCallStart name place = false := by
  rw [isCallStart, hcontinued]
  rfl

/-- While `skip` characters belong to an occurrence, what precedes the place and what is skipped are
characters of the name. -/
theorem filter_occurrencesFrom (hname : ∀ char ∈ name, continuesName char = true)
    (hne : name ≠ []) (hbefore : 0 < skip → before.head?.any continuesName = true)
    (htext : ∀ char ∈ text.take skip, continuesName char = true) :
    (occurrencesFrom name before skip text).filter (isCallStart name)
      = (placesFrom before text).filter (isCallPlace name) := by
  induction text generalizing before skip with
  | nil => rfl
  | cons char rest ih =>
      rw [placesFrom, List.filter_cons]
      cases skip with
      | succ skip =>
          -- The place is inside an occurrence, so a call there would continue the name.
          have hplace : isCallPlace name ⟨before, char :: rest⟩ = false := by
            rw [isCallPlace, isCallStart_of_continued (hbefore (Nat.succ_pos skip)), Bool.and_false]
          have hchar : continuesName char = true := htext char (by simp)
          rw [occurrencesFrom, hplace, if_neg Bool.false_ne_true]
          exact ih (fun _ => hchar) fun other hother => htext other (by simp [hother])
      | zero =>
          rw [occurrencesFrom]
          by_cases hprefix : name.isPrefixOf (char :: rest) = true
          · obtain ⟨after, hafter⟩ := List.isPrefixOf_iff_prefix.1 hprefix
            obtain ⟨first, letters, rfl⟩ := List.exists_cons_of_ne_nil hne
            obtain ⟨rfl, rfl⟩ := List.cons.inj hafter
            -- The search skips the rest of the name; all of it consists of characters of names.
            have hfirst : (first :: before).head?.any continuesName = true := hname first (by simp)
            have hletters : ∀ other ∈ (letters ++ after).take ((first :: letters).length - 1),
                continuesName other = true := fun other hother =>
              hname other (List.mem_cons_of_mem _ (by simpa using hother))
            have hrest := ih (fun _ => hfirst) hletters
            rw [if_pos hprefix, List.filter_cons, hrest]
            simp only [isCallPlace, hprefix, Bool.true_and]
          · have hplace : isCallPlace name ⟨before, char :: rest⟩ = false := by
              rw [isCallPlace, Bool.eq_false_iff.2 hprefix, Bool.false_and]
            rw [if_neg hprefix, hplace, if_neg Bool.false_ne_true]
            exact ih (by simp) (by simp)

theorem continuesName_of_isNamePart {char : Char} (hpart : isNamePart char = true) :
    continuesName char = true := by
  rw [continuesName, Bool.or_eq_true]
  exact Or.inl hpart

theorem isNamePart_of_isIdentifier {name : String} (hname : isIdentifier name = true) :
    ∀ char ∈ name.toList, isNamePart char = true := by
  intro char hchar
  rw [isIdentifier] at hname
  cases htext : name.toList with
  | nil => simp [htext] at hname
  | cons first rest =>
      rw [htext, Bool.and_eq_true] at hname
      obtain ⟨hfirst, hrest⟩ := hname
      rw [htext] at hchar
      rcases List.mem_cons.1 hchar with rfl | hchar
      · rw [isNameStart, Bool.or_assoc, Bool.or_eq_true] at hfirst
        rw [isNamePart, Bool.or_assoc, Char.isAlphanum]
        rcases hfirst with halpha | hmark
        · simp [halpha]
        · simp [hmark]
      · exact List.all_eq_true.1 hrest char hchar

/-- A name that can be configured consists of characters that continue a name. -/
theorem continuesName_of_isIdentifier {name : String} (hname : isIdentifier name = true) :
    name.toList ≠ [] ∧ ∀ char ∈ name.toList, continuesName char = true := by
  refine ⟨?_, fun char hchar =>
    continuesName_of_isNamePart (isNamePart_of_isIdentifier hname char hchar)⟩
  intro hempty
  rw [isIdentifier, hempty] at hname
  exact absurd hname Bool.false_ne_true

theorem filter_occurrences (source : String) {name : String} (hname : isIdentifier name = true) :
    (occurrences name.toList source.toList).filter (isCallStart name.toList)
      = (placesFrom [] source.toList).filter (isCallPlace name.toList) := by
  obtain ⟨hne, hletters⟩ := continuesName_of_isIdentifier hname
  rw [occurrences, if_neg (by simpa using hne),
    filter_occurrencesFrom hletters hne (by simp) (by simp)]

/-- **The calls of a name are those at all places of the text.** -/
theorem callSites_eq_places (source : String) {name : String} (hname : isIdentifier name = true) :
    callSites source name
      = ((placesFrom [] source.toList).filter (isCallPlace name.toList)).filterMap
          (callSiteAt name.toList) := by
  rw [callSites, filter_occurrences source hname]

end UtilityClasses.Source
