import UtilityClasses.Proofs.Enumeration
import UtilityClasses.Proofs.PathOrder
import UtilityClasses.Proofs.Scans

/-!
# Which files a scan keeps

A scan keeps exactly the eligible files below its root, each once and in the order of their paths.
The order in which directories list their entries does not show.
-/

namespace UtilityClasses

open FileSystem

variable {disk other : Disk} {root path name : String} {base reached : Location}
  {entries : List (String × FileTree)} {found : List String} {request : ScanRequest}

namespace FileSystem

/-! ### The files at a root -/

/-- The regular files at a root, by their paths. The root may be one itself. Otherwise it leads to a
directory, and names that lead to a file there are joined to it. No link is among these names. -/
inductive Disk.Holds (disk : Disk) (root : String) : String → Prop where
  | itself {text : Option String} (hfile : disk.find false root = .ok (.file text)) :
      Holds disk root root
  | below {base names : Location} {entries : List (String × FileTree)} {text : Option String}
      (hroot : disk.IsRoot root base entries)
      (hfile : (FileTree.directory entries).at? names = some (.file text)) :
      Holds disk root (names.foldl Path.join root)

theorem Disk.IsRoot.filesBelow_eq_ok (hroot : disk.IsRoot root base entries) :
    disk.filesBelow root = .ok (FileTree.filesInEntries root entries) := by
  rw [hroot.filesBelow_eq, filesInEntries_below]

/-- What can be found below a path: the path itself, the files of a directory, or nothing. -/
theorem Disk.filesBelow_eq_ok (hfound : disk.filesBelow root = .ok found) :
    (∃ text, disk.find false root = .ok (.file text) ∧ found = [root])
      ∨ (∃ base entries, disk.IsRoot root base entries
        ∧ found = FileTree.filesInEntries root entries)
      ∨ found = [] := by
  cases hfind : disk.find false root with
  | error error =>
      rw [filesBelow_of_error hfind] at hfound
      exact absurd hfound nofun
  | ok entry =>
      cases entry with
      | file text =>
          rw [filesBelow_of_entry hfind nofun] at hfound
          exact Or.inl ⟨text, rfl, (Except.ok.inj hfound).symm⟩
      | directory entries =>
          obtain ⟨base, hlocate, hat⟩ := Disk.find_eq_ok.1 hfind
          have hlocated := locate_kept (.refl base disk) hlocate (Or.inr ⟨_, hat, nofun⟩) false
          rw [filesBelow_of_entry hfind nofun] at hfound
          exact Or.inr (Or.inl ⟨base, entries, ⟨hlocated, hat⟩, (Except.ok.inj hfound).symm⟩)
      | link target =>
          rw [filesBelow_of_link hfind] at hfound
          cases hfollowed : disk.find true root with
          | error error =>
              rw [hfollowed] at hfound
              exact absurd hfound nofun
          | ok entry =>
              rw [hfollowed] at hfound
              cases entry with
              | file text => exact Or.inr (Or.inr (Except.ok.inj hfound).symm)
              | link target => exact Or.inr (Or.inr (Except.ok.inj hfound).symm)
              | directory entries =>
                  obtain ⟨base, hlocate, hat⟩ := Disk.find_eq_ok.1 hfollowed
                  exact Or.inr (Or.inl ⟨base, entries, ⟨hlocate, hat⟩,
                    (Except.ok.inj hfound).symm⟩)

theorem mem_filesInEntries (hproper : (FileTree.directory entries).isProper = true) :
    path ∈ FileTree.filesInEntries root entries
      ↔ ∃ names text, (FileTree.directory entries).at? names = some (.file text)
        ∧ path = names.foldl Path.join root := by
  have hpaths := FileTree.filesInEntries_eq root [] entries
  rw [List.foldl_nil] at hpaths
  rw [hpaths, List.mem_map]
  constructor
  · rintro ⟨⟨names, text⟩, hfile, rfl⟩
    exact ⟨names, text, (FileTree.mem_contents_iff hproper).1 hfile, rfl⟩
  · rintro ⟨names, text, hat, rfl⟩
    exact ⟨(names, text), (FileTree.mem_contents_iff hproper).2 hat, rfl⟩

/-- **What is found below a path is what it holds.** -/
theorem Disk.mem_filesBelow (hproper : disk.IsProper)
    (hfound : disk.filesBelow root = .ok found) : path ∈ found ↔ disk.Holds root path := by
  constructor
  · intro hpath
    rcases Disk.filesBelow_eq_ok hfound with ⟨text, hfile, rfl⟩ | ⟨base, entries, hroot, rfl⟩ | rfl
    · rw [List.mem_singleton.1 hpath]
      exact .itself hfile
    · have hdirectory := (FileTree.proper_of_at? hproper.tree hroot.holds).2
      obtain ⟨names, text, hfile, rfl⟩ := (mem_filesInEntries hdirectory).1 hpath
      exact .below hroot hfile
    · exact absurd hpath List.not_mem_nil
  · intro hholds
    cases hholds with
    | itself hfile =>
        rw [filesBelow_of_entry hfile nofun] at hfound
        rw [← Except.ok.inj hfound]
        exact List.mem_singleton_self root
    | below hroot hfile =>
        have hdirectory := (FileTree.proper_of_at? hproper.tree hroot.holds).2
        rw [hroot.filesBelow_eq_ok] at hfound
        rw [← Except.ok.inj hfound]
        exact (mem_filesInEntries hdirectory).2 ⟨_, _, hfile, rfl⟩

/-- A path that cannot be looked at holds nothing. -/
theorem Disk.not_holds_of_error {error : FileError} (herror : disk.filesBelow root = .error error) :
    ¬ disk.Holds root path := by
  intro hholds
  cases hholds with
  | itself hfile =>
      rw [filesBelow_of_entry hfile nofun] at herror
      exact absurd herror nofun
  | below hroot hfile =>
      rw [hroot.filesBelow_eq_ok] at herror
      exact absurd herror nofun

/-- Paths that are found together differ in their components. -/
theorem Disk.nodup_components (hproper : disk.IsProper)
    (hfound : disk.filesBelow root = .ok found) : (found.map Path.components).Nodup := by
  rcases Disk.filesBelow_eq_ok hfound with ⟨text, -, rfl⟩ | ⟨base, entries, hroot, rfl⟩ | rfl
  · exact List.nodup_singleton _
  · have hne := (Disk.locate_eq_ok.1 hroot.located).1
    have hdirectory := (FileTree.proper_of_at? hproper.tree hroot.holds).2
    have hpaths := FileTree.filesInEntries_eq root [] entries
    have hnodup := FileTree.nodup_contents [] _ hdirectory
    rw [List.foldl_nil] at hpaths
    rw [hpaths, List.map_map]
    refine (List.nodup_map_iff_inj_on (hnodup.of_map _)).2 ?_
    intro left hleft right hright hsame
    have hnamed {file : Location × Option String}
        (hfile : file ∈ FileTree.contents [] (.directory entries)) :
        ∀ name ∈ file.1, isEntryName name = true :=
      (FileTree.proper_of_at? hdirectory ((FileTree.mem_contents_iff hdirectory).1 hfile)).1
    rw [Function.comp_apply, Function.comp_apply, components_foldl hne (hnamed hleft),
      components_foldl hne (hnamed hright), List.append_cancel_left_eq] at hsame
    refine List.inj_on_of_nodup_map hnodup hleft hright ?_
    exact (List.map_injective_iff.2 fun _ _ => Component.name.inj) hsame
  · exact List.nodup_nil

/-! ### The names of files -/

/-- A last segment that is not followed leads nowhere, to what it names, or to a directory. -/
theorem FileTree.walk_last (tree : FileTree) (location : Location) (segment : String) :
    (∃ error, tree.walk ⟨false, false⟩ location [segment] = .failed error)
      ∨ tree.walk ⟨false, false⟩ location [segment] = .arrived (location ++ [segment])
      ∨ ∃ reached entries, tree.walk ⟨false, false⟩ location [segment] = .arrived reached
        ∧ tree.at? reached = some (.directory entries) := by
  cases step_of tree location segment with
  | lost hat => exact Or.inl ⟨_, walk_lost hat⟩
  | stay hat hdot => exact Or.inr (Or.inr ⟨location, _, walk_stay hat hdot, hat⟩)
  | up hat =>
      by_cases hroot : location = []
      · subst hroot
        exact Or.inr (Or.inr ⟨[], _, walk_up hat, hat⟩)
      · obtain ⟨above, habove⟩ := hasPlace_of_at? hat hroot
        exact Or.inr (Or.inr ⟨location.dropLast, above, walk_up hat, habove⟩)
  | missing hat hname hup hnone =>
      rcases walk_missing ⟨false, false⟩ [] hat hname hup hnone with hfails | ⟨-, harrives⟩
      · exact Or.inl ⟨_, hfails⟩
      · exact Or.inr (Or.inl harrives)
  | link hat hname hup hlink =>
      rw [walk_name hat hname hup, hlink]
      exact Or.inr (Or.inl rfl)
  | child hat hname hup hchild hlink => exact Or.inr (Or.inl (walk_child hat hname hup hchild hlink))

/-- A path that leads to a file, through no link at its end, ends in the name of that file. -/
theorem FileTree.Leads.exists_concat {tree : FileTree} {links : Nat} {location : Location}
    {rest : List String} {segment : String} {text : Option String}
    (hleads : tree.Leads ⟨false, false⟩ links location (rest ++ [segment]) reached)
    (hfile : tree.at? reached = some (.file text)) : ∃ above, reached = above ++ [segment] := by
  generalize hall : rest ++ [segment] = all at hleads
  induction hleads generalizing rest with
  | @arrived links location all reached hwalk =>
      subst hall
      rw [walk_append (List.cons_ne_nil _ _)] at hwalk
      split at hwalk
      · next start _ =>
        rcases walk_last tree start segment with
          ⟨error, hfails⟩ | harrives | ⟨found, entries, harrives, hat⟩
        · exact absurd (hwalk.symm.trans hfails) nofun
        · exact ⟨start, Walk.arrived.inj (hwalk.symm.trans harrives)⟩
        · obtain rfl : reached = found := Walk.arrived.inj (hwalk.symm.trans harrives)
          exact absurd (hat.symm.trans hfile) nofun
      · exact absurd hwalk nofun
      · exact absurd hwalk nofun
  | link hwalk hleads ih =>
      subst hall
      rw [walk_append (List.cons_ne_nil _ _)] at hwalk
      split at hwalk
      · next start _ =>
        rcases walk_last tree start segment with
          ⟨error, hfails⟩ | harrives | ⟨found, entries, harrives, -⟩
        · exact absurd (hwalk.symm.trans hfails) nofun
        · exact absurd (hwalk.symm.trans harrives) nofun
        · exact absurd (hwalk.symm.trans harrives) nofun
      · exact absurd hwalk nofun
      · obtain ⟨-, -, rfl⟩ := Walk.atLink.inj hwalk
        exact ih hfile (List.append_assoc _ _ _)

/-- A path that is itself a file has the name that the file has. -/
theorem Disk.shows_of_find {text : Option String} (hproper : disk.IsProper)
    (hfile : disk.find false root = .ok (.file text)) :
    ∃ location, disk.Shows root (location, text) := by
  obtain ⟨reached, hlocate, hat⟩ := Disk.find_eq_ok.1 hfile
  have hlocated := locate_kept (.refl reached disk) hlocate (Or.inr ⟨_, hat, nofun⟩) false
  have hnamed := (FileTree.proper_of_at? hproper.tree hat).1
  refine ⟨reached, hlocated, hat, hnamed, ?_⟩
  have hleads := (Disk.locate_eq_ok.1 hlocate).2
  have hsegments : segments root = (segments root).dropLast ++ [(segments root).getLast _] :=
    (List.dropLast_concat_getLast (segments_ne_nil root)).symm
  rw [hsegments] at hleads
  obtain ⟨above, rfl⟩ := hleads.exists_concat hat
  obtain ⟨habove, hname⟩ := List.forall_mem_append.1 hnamed
  rw [List.forall_mem_singleton] at hname
  rw [fileName?_path habove hname]
  exact fileName?_of_segments hsegments hname

theorem Disk.Holds.shows (hproper : disk.IsProper) (hholds : disk.Holds root path) :
    ∃ file, disk.Shows path file := by
  cases hholds with
  | itself hfile =>
      obtain ⟨location, hshows⟩ := Disk.shows_of_find hproper hfile
      exact ⟨_, hshows⟩
  | @below base names entries text hroot hfile =>
      have hmem := FileTree.mem_contents hfile base
      have hshows := hroot.shows hproper hmem
      rw [pathBelow, List.drop_left] at hshows
      exact ⟨_, hshows⟩

end FileSystem

/-! ### Eligible files -/

/-- What makes a path one of the source files that are asked for. -/
structure IsEligible (disk : Disk) (request : ScanRequest) (path : String) : Prop where
  held : disk.Holds request.root path
  extension : ∃ extension ∈ request.extensions, Path.extension? path = some extension
  /-- It does not continue a path that is ignored, component by component. -/
  outside : ∀ ignored ∈ request.ignores, isWildcardIgnore ignored = false →
    ¬ Path.components (Path.join request.root ignored) <+: Path.components path
  unmatched : ∀ ignored ∈ request.ignores, isWildcardIgnore ignored = true →
    ∀ pattern, Glob.Pattern.ofString ignored = .ok pattern → pattern.matchesText path = false
  /-- It does not lead to the excluded file, if there is one. -/
  different : ∀ excluded ∈ request.exclude, ∀ place, disk.canonical? excluded = some place →
    disk.canonical? path ≠ some place

namespace ScanRequest

theorem hasExtension_iff : request.hasExtension path = true
    ↔ ∃ extension ∈ request.extensions, Path.extension? path = some extension := by
  rw [hasExtension, Option.any_eq_true]
  simp only [List.contains_iff_mem, and_comm]

theorem isBelow_iff {directory : String} : Path.isBelow path directory = true
    ↔ Path.components directory <+: Path.components path :=
  List.isPrefixOf_iff_prefix

theorem ignoredPaths_iff : request.ignoredPaths.any (Path.isBelow path) = false
    ↔ ∀ ignored ∈ request.ignores, isWildcardIgnore ignored = false →
      ¬ Path.components (Path.join request.root ignored) <+: Path.components path := by
  rw [ignoredPaths, List.any_map, List.any_filter, List.any_eq_false]
  simp only [Function.comp_apply, Bool.and_eq_true, Bool.not_eq_true', isBelow_iff, not_and]

theorem mem_patterns {pattern : Glob.Pattern} : pattern ∈ request.patterns
    ↔ ∃ ignored ∈ request.ignores, isWildcardIgnore ignored = true
      ∧ Glob.Pattern.ofString ignored = .ok pattern := by
  have hread (outcome : Except Glob.Fault Glob.Pattern) :
      outcome.toOption = some pattern ↔ outcome = .ok pattern := by
    cases outcome <;> simp [Except.toOption]
  rw [patterns, readPatterns, List.filterMap_map, List.mem_filterMap]
  simp only [Function.comp_apply, List.mem_filter, and_assoc, hread]

theorem patterns_iff : request.patterns.any (·.matchesText path) = false
    ↔ ∀ ignored ∈ request.ignores, isWildcardIgnore ignored = true →
      ∀ pattern, Glob.Pattern.ofString ignored = .ok pattern → pattern.matchesText path = false := by
  rw [List.any_eq_false]
  simp only [mem_patterns, Bool.not_eq_true]
  constructor
  · intro hnone ignored hignored hwildcard pattern hpattern
    exact hnone pattern ⟨ignored, hignored, hwildcard, hpattern⟩
  · rintro hnone pattern ⟨ignored, hignored, hwildcard, hpattern⟩
    exact hnone ignored hignored hwildcard pattern hpattern

end ScanRequest

/-- The comparison of names that comes first does not let the excluded file through. -/
theorem excludes_iff (hproper : disk.IsProper) (hholds : disk.Holds root path)
    (exclude : Option String) : disk.excludes (exclude.bind disk.canonical?) path = false
    ↔ ∀ excluded ∈ exclude, ∀ place, disk.canonical? excluded = some place →
      disk.canonical? path ≠ some place := by
  obtain ⟨file, hshows⟩ := hholds.shows hproper
  cases exclude with
  | none => exact iff_of_true rfl nofun
  | some excluded =>
      rw [Option.bind_some]
      cases hplace : disk.canonical? excluded with
      | none => simp [hplace, Disk.excludes]
      | some place =>
          rw [hshows.excludes_eq, decide_eq_false_iff_not]
          simp [hplace]

theorem mem_scanned (hproper : disk.IsProper) :
    path ∈ (disk.scanned request).files ↔ IsEligible disk request path := by
  rw [Disk.scanned]
  cases hfound : disk.filesBelow request.root with
  | error error =>
      exact iff_of_false List.not_mem_nil fun heligible =>
        Disk.not_holds_of_error hfound heligible.held
  | ok found =>
      dsimp only
      rw [(sortPaths_perm _).mem_iff, List.mem_filter, List.mem_filter,
        Disk.mem_filesBelow hproper hfound, ScanRequest.wants, Bool.and_eq_true, Bool.and_eq_true,
        Bool.not_eq_true', Bool.not_eq_true', Bool.not_eq_true', ScanRequest.hasExtension_iff,
        ScanRequest.ignoredPaths_iff, ScanRequest.patterns_iff]
      constructor
      · rintro ⟨⟨hheld, ⟨hextension, houtside⟩, hunmatched⟩, hdifferent⟩
        exact ⟨hheld, hextension, houtside, hunmatched, (excludes_iff hproper hheld _).1 hdifferent⟩
      · rintro ⟨hheld, hextension, houtside, hunmatched, hdifferent⟩
        exact ⟨⟨hheld, ⟨hextension, houtside⟩, hunmatched⟩,
          (excludes_iff hproper hheld _).2 hdifferent⟩

theorem nodup_kept (hproper : disk.IsProper) (hfound : disk.filesBelow root = .ok found)
    (wanted kept : String → Bool) :
    (((found.filter wanted).filter kept).map Path.components).Nodup :=
  (Disk.nodup_components hproper hfound).sublist
    ((List.filter_sublist.trans List.filter_sublist).map Path.components)

theorem scanned_increasing (hproper : disk.IsProper) (request : ScanRequest) :
    (disk.scanned request).files.Pairwise fun left right =>
      List.compareLex Component.order (Path.components left) (Path.components right) = .lt := by
  rw [Disk.scanned]
  cases hfound : disk.filesBelow request.root with
  | error error => exact .nil
  | ok found => exact sortPaths_increasing (nodup_kept hproper hfound _ _)

/-- A scan does not see the order in which directories are listed. -/
theorem scanned_relisted (hproper : disk.IsProper) (hrelisted : disk.Relisted other)
    (request : ScanRequest) : other.scanned request = disk.scanned request := by
  have hcanonical := hrelisted.canonical?_eq hproper
  have hexcludes : other.excludes = disk.excludes := by
    funext excluded path
    rw [Disk.excludes, Disk.excludes, hcanonical]
  rw [Disk.scanned, Disk.scanned, hcanonical, hexcludes]
  rcases hrelisted.filesBelow_cases hproper request.root with
    ⟨error, hfound, hother⟩ | ⟨found, others, hfound, hother, hperm⟩
  · rw [hfound, hother]
  · rw [hfound, hother]
    dsimp only
    rw [sortPaths_congr ((hperm.filter _).filter _) (nodup_kept hproper hfound _ _)]

/-- **A scan keeps exactly the eligible files, once each, in the order of their paths**, however the
directories list their entries. -/
theorem scan_eligible (request : ScanRequest) (hproper : disk.IsProper) :
    ∃ result : Scan,
      (∀ other, disk.Relisted other →
        (scan request : StateM Disk Scan).run other = (result, other))
        ∧ (result.files.Pairwise fun left right =>
          List.compareLex Component.order (Path.components left) (Path.components right) = .lt)
        ∧ ∀ path, path ∈ result.files ↔ IsEligible disk request path := by
  refine ⟨disk.scanned request, fun other hrelisted => ?_, scanned_increasing hproper request,
    fun path => mem_scanned hproper⟩
  rw [run_scan, scanned_relisted hproper hrelisted]

/-- Sources in and beside directories whose names begin alike. -/
def layeredEntries : List (String × FileTree) :=
  [("a", .directory [("b.ts", .file (some ""))]),
    ("a.ts", .file none),
    ("gen", .directory [("c.ts", .file (some ""))]),
    ("generated", .directory [("d.ts", .file (some "")), ("d.test.ts", .file (some ""))]),
    ("link.ts", .link "a.ts"),
    ("out.ts", .file (some ""))]

def layeredDisk (entries : List (String × FileTree)) : Disk :=
  ⟨.directory [("src", .directory entries)], []⟩

def layeredRequest : ScanRequest := ⟨"./src", ["ts"], ["gen", "**/*.test.ts"], some "src/../src/out.ts"⟩

theorem relisted_layeredDisk (entries : List (String × FileTree)) :
    (layeredDisk entries).Relisted (layeredDisk entries.reverse) :=
  ⟨@FileTree.Relisted.inside [] [] "src" _ _ (.listing (List.reverse_perm _).symm), rfl⟩

/-- The file in the directory `a` stands before `a.ts`, as no comparison of their texts would have
it. -/
theorem scan_eligible_among_layers :
    (layeredDisk layeredEntries).IsProper
      ∧ (layeredDisk layeredEntries).Relisted (layeredDisk layeredEntries.reverse)
      ∧ ∃ result : Scan, result.files = ["./src/a/b.ts", "./src/a.ts", "./src/generated/d.ts"]
        ∧ (scan layeredRequest : StateM Disk Scan).run (layeredDisk layeredEntries.reverse)
          = (result, layeredDisk layeredEntries.reverse)
        ∧ IsEligible (layeredDisk layeredEntries) layeredRequest "./src/generated/d.ts"
        ∧ ¬ IsEligible (layeredDisk layeredEntries) layeredRequest "./src/out.ts" := by
  have hproper : (layeredDisk layeredEntries).IsProper := ⟨by decide +kernel, _, rfl⟩
  have hrelisted := relisted_layeredDisk layeredEntries
  obtain ⟨result, hruns, -, hmem⟩ := scan_eligible layeredRequest hproper
  have hfound : (layeredDisk layeredEntries).filesBelow layeredRequest.root
      = .ok ["./src/a/b.ts", "./src/a.ts", "./src/gen/c.ts", "./src/generated/d.ts",
        "./src/generated/d.test.ts", "./src/out.ts"] := by
    decide +kernel
  have hscan := scanned_sorted hfound rfl (by decide +kernel)
  have hresult := (hruns _ ⟨.refl _, rfl⟩).symm.trans (run_scan _ _)
  have hfiles : result.files = ["./src/a/b.ts", "./src/a.ts", "./src/generated/d.ts"] := by
    rw [(Prod.mk.inj hresult).1, hscan]
    decide +kernel
  refine ⟨hproper, hrelisted, result, hfiles, hruns _ hrelisted, ?_, ?_⟩
  · rw [← hmem, hfiles]
    decide
  · rw [← hmem, hfiles]
    decide

end UtilityClasses
