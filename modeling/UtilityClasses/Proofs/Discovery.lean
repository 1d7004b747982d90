import Mathlib.Data.List.Chain
import Mathlib.Data.List.Infix
import Mathlib.Data.List.TakeWhile
import UtilityClasses.Config.Discovery
import UtilityClasses.Proofs.Paths

/-!
# The configuration that governs a directory

From an absolute path without dots the search goes up to the root, one directory at a time, and the
first directory that holds a configuration file or tops a repository decides. So no file above the top
of a repository is found, and none that a nearer directory hides.
-/

namespace UtilityClasses

open FileSystem

variable {path start : String} {names others : List String}

namespace FileSystem

/-! ### Going up -/

/-- An absolute path without dots, and the names that lead along it from the root. Empty segments
count for nothing. -/
structure LeadsDown (path : String) (names : List String) : Prop where
  absolute : Path.isAbsolute path = true
  names : ∃ others, segments path = "" :: others ∧ "." ∉ others ∧ ".." ∉ others
    ∧ others.filter (· ≠ "") = names

theorem segments_of_isAbsolute (habsolute : Path.isAbsolute path = true) :
    ∃ others, segments path = "" :: others := by
  rw [Path.isAbsolute, beq_iff_eq, List.head?_eq_some_iff] at habsolute
  obtain ⟨rest, hrest⟩ := habsolute
  exact ⟨(splitAll '/' rest).map String.ofList, by rw [segments, hrest, splitAll_separator]; rfl⟩

theorem isAbsolute_of_segments {second : String} (hsegments : segments path = "" :: second :: others) :
    Path.isAbsolute path = true := by
  cases hpath : path.toList with
  | nil =>
      rw [segments, hpath] at hsegments
      exact absurd hsegments (by simp [splitAll])
  | cons char rest =>
      by_cases hslash : char = '/'
      · rw [Path.isAbsolute, hpath, hslash]
        rfl
      · obtain ⟨first, pieces, -, hcons⟩ := splitAll_cons hslash rest
        rw [segments, hpath, hcons, List.map_cons, List.cons.injEq] at hsegments
        exact absurd hsegments.1 (by simp [← String.toList_inj])

theorem exists_leadsDown (habsolute : Path.isAbsolute start = true)
    (hplain : ∀ segment ∈ segments start, segment ≠ "." ∧ segment ≠ "..") :
    ∃ names, LeadsDown start names := by
  obtain ⟨others, hothers⟩ := segments_of_isAbsolute habsolute
  rw [hothers, List.forall_mem_cons] at hplain
  exact ⟨_, habsolute, others, hothers, fun hdot => (hplain.2 _ hdot).1 rfl,
    fun hup => (hplain.2 _ hup).2 rfl, rfl⟩

theorem LeadsDown.components_eq (hpath : LeadsDown path names) :
    Path.components path = .root :: names.map .name := by
  obtain ⟨habsolute, others, hothers, hdot, hup, rfl⟩ := hpath
  have hlater : others.filterMap Path.laterComponent
      = (others.filter (· ≠ "")).map Component.name := by
    rw [← List.filterMap_eq_map, ← List.filterMap_eq_filter, List.filterMap_filterMap]
    refine List.filterMap_congr fun segment hsegment => ?_
    have hother : segment ≠ "." := fun heq => hdot (heq ▸ hsegment)
    have hbelow : segment ≠ ".." := fun heq => hup (heq ▸ hsegment)
    by_cases hempty : segment = "" <;>
      simp [Path.laterComponent, hempty, hother, hbelow, Option.guard]
  rw [Path.components, hothers]
  dsimp only
  rw [hlater, Path.firstComponent, if_pos habsolute]
  rfl

theorem LeadsDown.length_le (hpath : LeadsDown path names) :
    names.length ≤ (segments path).length := by
  obtain ⟨-, others, hothers, -, -, rfl⟩ := hpath
  rw [hothers, List.length_cons]
  exact Nat.le_succ_of_le (List.length_filter_le _ _)

theorem filter_dropWhile_insignificant (hdot : "." ∉ others) :
    (others.dropWhile Path.isInsignificant).filter (· ≠ "") = others.filter (· ≠ "") := by
  have hdropped : (others.takeWhile Path.isInsignificant).filter (· ≠ "") = [] := by
    refine List.filter_eq_nil_iff.2 fun segment hsegment => ?_
    have hother : segment ≠ "." :=
      fun heq => hdot (heq ▸ (List.takeWhile_sublist _).subset hsegment)
    simpa [Path.isInsignificant, hother] using List.mem_takeWhile_imp hsegment
  have hsplit := congrArg (List.filter (· ≠ ""))
    (List.takeWhile_append_dropWhile (p := Path.isInsignificant) (l := others))
  rwa [List.filter_append, hdropped, List.nil_append] at hsplit

/-- What a path loses for its parent: the last name, with the empty segments around it. -/
theorem loses_last (hdot : "." ∉ others) (hnames : others.filter (· ≠ "") ≠ []) :
    ∃ last kept, others.reverse.dropWhile Path.isInsignificant = last :: kept
      ∧ (kept.dropWhile Path.isInsignificant).reverse.filter (· ≠ "")
        = (others.filter (· ≠ "")).dropLast
      ∧ ∀ segment ∈ (kept.dropWhile Path.isInsignificant).reverse, segment ∈ others := by
  have hleft : (others.reverse.dropWhile Path.isInsignificant).filter (· ≠ "")
      = (others.filter (· ≠ "")).reverse := by
    rw [filter_dropWhile_insignificant (by simpa using hdot), List.filter_reverse]
  have hlast := List.head?_dropWhile_not Path.isInsignificant others.reverse
  have hsublist := List.dropWhile_sublist (l := others.reverse) Path.isInsignificant
  cases hdropped : others.reverse.dropWhile Path.isInsignificant with
  | nil =>
      rw [hdropped, List.filter_nil] at hleft
      exact absurd (List.reverse_eq_nil_iff.1 hleft.symm) hnames
  | cons last kept =>
      rw [hdropped] at hleft hlast hsublist
      have hempty : last ≠ "" := by
        rintro rfl
        exact absurd (show Path.isInsignificant "" = false from hlast) (by decide)
      have hmem (segment : String) (hsegment : segment ∈ kept) : segment ∈ others :=
        List.mem_reverse.1 (hsublist.subset (List.mem_cons_of_mem _ hsegment))
      rw [List.filter_cons_of_pos (by simpa using hempty)] at hleft
      refine ⟨last, kept, rfl, ?_, fun segment hsegment => ?_⟩
      · rw [List.filter_reverse, filter_dropWhile_insignificant fun hdot' => hdot (hmem _ hdot'),
          ← List.reverse_inj, List.reverse_reverse, ← List.tail_reverse, ← hleft, List.tail_cons]
      · exact hmem segment ((List.dropWhile_sublist _).subset (List.mem_reverse.1 hsegment))

/-- The root has no parent, and the parent of any other directory loses the last name. -/
theorem LeadsDown.parent (hpath : LeadsDown path names) :
    names = [] ∧ Path.parent? path = none
      ∨ names ≠ [] ∧ ∃ parent, Path.parent? path = some parent ∧ LeadsDown parent names.dropLast := by
  have hslash (segment : String) (hsegment : segment ∈ segments path) : '/' ∉ segment.toList :=
    slash_not_mem_segment hsegment
  obtain ⟨habsolute, others, hothers, hdot, hup, rfl⟩ := hpath
  rw [hothers] at hslash
  rw [Path.parent?, hothers]
  dsimp only
  by_cases hnames : others.filter (· ≠ "") = []
  · have hdropped : others.reverse.dropWhile Path.isInsignificant = [] := by
      refine List.dropWhile_eq_nil_iff.2 fun segment hsegment => ?_
      have hempty := List.filter_eq_nil_iff.1 hnames segment (List.mem_reverse.1 hsegment)
      rw [Path.isInsignificant, show segment = "" by simpa using hempty]
      rfl
    rw [hdropped]
    exact Or.inl ⟨hnames, rfl⟩
  · obtain ⟨last, kept, hdropped, habove, hmem⟩ := loses_last hdot hnames
    refine Or.inr ⟨hnames, ?_⟩
    rw [hdropped, ← habove]
    dsimp only
    cases hrest : (kept.dropWhile Path.isInsignificant).reverse with
    | nil =>
        rw [habsolute]
        exact ⟨"/", rfl, by decide, [""], by decide, by decide, by decide, by decide⟩
    | cons second rest =>
        rw [hrest] at hmem
        have hsegments : segments ("/".intercalate ("" :: second :: rest)) = "" :: second :: rest := by
          refine segments_intercalate (List.cons_ne_nil _ _) (List.forall_mem_cons.2 ⟨by decide, ?_⟩)
          exact fun segment hsegment => hslash segment (List.mem_cons_of_mem _ (hmem _ hsegment))
        exact ⟨_, rfl, isAbsolute_of_segments hsegments, _, hsegments,
          fun hmem' => hdot (hmem _ hmem'), fun hmem' => hup (hmem _ hmem'), rfl⟩

/-- The directories on the way up from a path to the root: first the path itself, then the parent of
each, and the last one has no names left. -/
structure LeadsUp (start : String) (names : List String) (chain : List String) : Prop where
  starts : chain.head? = some start
  parents : chain.IsChain fun directory above => Path.parent? directory = some above
  names : chain.map Path.components
    = names.inits.reverse.map fun above => .root :: above.map .name

theorem LeadsDown.leadsUp_root (hstart : LeadsDown start []) : LeadsUp start [] [start] :=
  ⟨rfl, .singleton _, congrArg (List.cons · []) hstart.components_eq⟩

theorem inits_of_ne_nil (hnames : names ≠ []) :
    names.inits.reverse = names :: names.dropLast.inits.reverse := by
  obtain ⟨above, last, rfl⟩ : ∃ above last, names = above ++ [last] :=
    ⟨_, _, (List.dropLast_concat_getLast hnames).symm⟩
  rw [List.inits_append, List.dropLast_concat]
  simp

theorem LeadsUp.below {parent : String} {chain : List String} (hstart : LeadsDown start names)
    (hnames : names ≠ []) (hparent : Path.parent? start = some parent)
    (habove : LeadsUp parent names.dropLast chain) : LeadsUp start names (start :: chain) := by
  obtain ⟨hstarts, hparents, hchain⟩ := habove
  refine ⟨rfl, List.isChain_cons.2 ⟨fun above hfirst => ?_, hparents⟩, ?_⟩
  · obtain rfl : parent = above := Option.some.inj (hstarts.symm.trans hfirst)
    exact hparent
  · rw [List.map_cons, hstart.components_eq, hchain, inits_of_ne_nil hnames, List.map_cons]

/-- As many steps as there are names lead to the root. -/
theorem leadsUp_ancestorsFrom {fuel : Nat} (hstart : LeadsDown start names)
    (hfuel : names.length ≤ fuel) : LeadsUp start names (Path.ancestorsFrom fuel start) := by
  induction fuel generalizing start names with
  | zero =>
      obtain rfl : names = [] := List.eq_nil_of_length_eq_zero (Nat.le_zero.1 hfuel)
      exact hstart.leadsUp_root
  | succ fuel ih =>
      rw [Path.ancestorsFrom]
      rcases hstart.parent with ⟨rfl, hparent⟩ | ⟨hnames, parent, hparent, habove⟩
      · rw [hparent]
        exact hstart.leadsUp_root
      · have hfewer : names.dropLast.length ≤ fuel := by
          rw [List.length_dropLast]
          omega
        rw [hparent]
        exact (ih habove hfewer).below hstart hnames hparent

end FileSystem

/-! ### The search -/

/-- Whether the search ends at a directory: it holds a configuration file or tops a repository. -/
def endsSearch (present : String → Bool) (directory : String) : Bool :=
  present (Path.join directory configFileName) || present (Path.join directory repositoryMark)

variable {m : Type → Type} [Monad m] [LawfulMonad m]

theorem findConfigAmong_eq (present : String → Bool) (chain : List String) :
    (findConfigAmong (fun path => pure (present path)) chain : m (Option String))
      = pure (((chain.find? (endsSearch present)).map (Path.join · configFileName)).filter
          present) := by
  induction chain with
  | nil => rfl
  | cons directory above ih =>
      rw [findConfigAmong, List.find?_cons, endsSearch]
      simp only [pure_bind]
      cases hfile : present (Path.join directory configFileName) with
      | true => simp [Option.filter, hfile]
      | false =>
          cases hmark : present (Path.join directory repositoryMark) with
          | true => simp [Option.filter, hfile]
          | false => simpa using ih

/-- **The nearest directory that holds a configuration file or tops a repository governs.** The search
goes up from the start to the root. Where that directory holds a configuration file, it is found, also
at the top of a repository, and otherwise none is found. -/
theorem findConfigFile_nearest (present : String → Bool)
    (habsolute : Path.isAbsolute start = true)
    (hplain : ∀ segment ∈ segments start, segment ≠ "." ∧ segment ≠ "..") :
    ∃ names chain, LeadsUp start names chain
      ∧ (findConfigFile (fun path => pure (present path)) start : m (Option String))
        = pure (((chain.find? (endsSearch present)).map (Path.join · configFileName)).filter
            present) := by
  obtain ⟨names, hnames⟩ := exists_leadsDown habsolute hplain
  exact ⟨names, Path.ancestors start, leadsUp_ancestorsFrom hnames hnames.length_le,
    findConfigAmong_eq present _⟩

/-- A configuration file at the top of a repository, and one above it. -/
def markedProject (path : String) : Bool :=
  ["/home/.tailcomprc.json", "/home/app/.git", "/home/app/.tailcomprc.json"].contains path

theorem findConfigFile_nearest_at_mark :
    let start := "/home/app//src/"
    Path.isAbsolute start = true
      ∧ (∀ segment ∈ segments start, segment ≠ "." ∧ segment ≠ "..")
      ∧ ∃ names chain, LeadsUp start names chain
        ∧ (findConfigFile (fun path => pure (markedProject path)) start : Id (Option String))
          = pure (((chain.find? (endsSearch markedProject)).map
              (Path.join · configFileName)).filter markedProject)
        ∧ Id.run (findConfigFile (fun path => pure (markedProject path)) start)
          = some "/home/app/.tailcomprc.json" := by
  intro start
  have habsolute : Path.isAbsolute start = true := by decide
  have hplain : ∀ segment ∈ segments start, segment ≠ "." ∧ segment ≠ ".." := by decide
  obtain ⟨names, chain, hchain, hfound⟩ :=
    findConfigFile_nearest (m := Id) markedProject habsolute hplain
  exact ⟨habsolute, hplain, names, chain, hchain, hfound, by decide +kernel⟩

end UtilityClasses
