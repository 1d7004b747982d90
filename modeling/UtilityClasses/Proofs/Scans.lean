import UtilityClasses.CommandLine.Generate
import UtilityClasses.Proofs.Disks

/-!
# What a scan of a disk finds

A scan changes nothing, so its result is a function of the disk. The paths that it finds below a root
lead to the files of the directory there, and the excluded file is the one that the excluded path
leads to.
-/

namespace UtilityClasses

open FileSystem (Disk FileError FileTree Location isEntryName)
open FileSystem

variable {disk : Disk} {root path : String} {base : Location} {entries : List (String × FileTree)}

/-! ### Runs that only look -/

namespace FileSystem.Disk

/-- Whether a path leads to the excluded file, whose canonical path is known. -/
def excludes (disk : Disk) (excluded : Option String) (path : String) : Bool :=
  excluded.any fun place =>
    Path.fileName? path == Path.fileName? place && disk.canonical? path == some place

def scanned (disk : Disk) (request : ScanRequest) : Scan :=
  match disk.filesBelow request.root with
  | .error error => ⟨[], 1, request.patternWarnings ++ [.inaccessible request.root error]⟩
  | .ok found =>
    let excluded := request.exclude.bind disk.canonical?
    ⟨sortPaths ((found.filter request.wants).filter fun path => !disk.excludes excluded path), 0,
      request.patternWarnings⟩

def source (disk : Disk) (path : String) : Except Warning SourceText :=
  match disk.readText path with
  | .ok content => .ok ⟨path, content⟩
  | .error error => .error (.unreadable path error.message)

end FileSystem.Disk

/-- What follows an operation goes on with its answer and the disk it leaves. -/
theorem run_then {α β : Type} {operation : StateM Disk α} {next : α → StateM Disk β} {answer : α}
    {left : Disk} (hrun : operation.run disk = (answer, left)) :
    (operation >>= next).run disk = (next answer).run left := by
  rw [StateT.run_bind, hrun]
  rfl

theorem run_isExcluded (excluded : Option String) (path : String) (disk : Disk) :
    (isExcluded excluded path : StateM Disk Bool).run disk = (disk.excludes excluded path, disk) := by
  cases excluded with
  | none => rfl
  | some place =>
      rw [isExcluded, Disk.excludes, Option.any_some]
      split
      · next hname =>
        rw [hname]
        rfl
      · next hname =>
        rw [Bool.eq_false_iff.2 hname]
        rfl

theorem run_withoutExcluded (excluded : Option String) (paths : List String) (disk : Disk) :
    (withoutExcluded excluded paths : StateM Disk (List String)).run disk
      = (paths.filter fun path => !disk.excludes excluded path, disk) := by
  induction paths with
  | nil => rfl
  | cons path rest ih =>
      rw [withoutExcluded, run_then (run_isExcluded excluded path disk), run_then ih,
        List.filter_cons]
      cases disk.excludes excluded path <;> rfl

theorem run_canonicalExclude (request : ScanRequest) (disk : Disk) :
    (canonicalExclude request : StateM Disk (Option String)).run disk
      = (request.exclude.bind disk.canonical?, disk) := by
  rw [canonicalExclude]
  cases request.exclude <;> rfl

theorem run_scan (request : ScanRequest) (disk : Disk) :
    (scan request : StateM Disk Scan).run disk = (disk.scanned request, disk) := by
  have hfound : (FileAccess.filesBelow request.root : StateM Disk _).run disk
      = (disk.filesBelow request.root, disk) := rfl
  rw [scan, run_then (run_canonicalExclude request disk), run_then hfound, Disk.scanned]
  cases disk.filesBelow request.root with
  | error error => rfl
  | ok found =>
      dsimp only
      rw [run_then (run_withoutExcluded _ _ disk)]
      rfl

/-- What a scan finds, when it need not be sorted any more. -/
theorem scanned_sorted {request : ScanRequest} {found kept : List String}
    (hfound : disk.filesBelow request.root = .ok found)
    (hkept : ((found.filter request.wants).filter fun path =>
      !disk.excludes (request.exclude.bind disk.canonical?) path) = kept)
    (hsorted : kept.Pairwise fun left right => (Path.order left right != .gt) = true) :
    disk.scanned request = ⟨kept, 0, request.patternWarnings⟩ := by
  rw [Disk.scanned, hfound]
  dsimp only
  rw [hkept, sortPaths, List.mergeSort_of_pairwise hsorted]

theorem run_loadEach (paths : List String) (disk : Disk) :
    (loadEach paths : StateM Disk _).run disk = (paths.map disk.source, disk) := by
  have hsource (path : String) : (loadSource path : StateM Disk _).run disk
      = (disk.source path, disk) := by
    have hread : (FileAccess.readText path : StateM Disk _).run disk = (disk.readText path, disk) :=
      rfl
    rw [loadSource, run_then hread, Disk.source]
    cases disk.readText path <;> rfl
  induction paths with
  | nil => rfl
  | cons path rest ih =>
      rw [loadEach, run_then (hsource path), run_then ih]
      rfl

/-! ### The files below a root -/

namespace FileSystem

/-- A path that leads to a directory. -/
structure Disk.IsRoot (disk : Disk) (root : String) (base : Location)
    (entries : List (String × FileTree)) : Prop where
  located : disk.locate ⟨true, false⟩ root = .ok base
  holds : disk.tree.at? base = some (.directory entries)

/-- The path of a file below a root: the names that lead to it from there, joined one by one. -/
def pathBelow (root : String) (base location : Location) : String :=
  (location.drop base.length).foldl Path.join root

theorem exists_isRoot (hdirectory : disk.isDirectory root = true) :
    ∃ base entries, disk.IsRoot root base entries := by
  obtain ⟨base, entries, hlocate, hat⟩ := Disk.isDirectory_iff.1 hdirectory
  exact ⟨base, entries, hlocate, hat⟩

theorem filesInEntries_below (root : String) (base : Location)
    (entries : List (String × FileTree)) :
    FileTree.filesInEntries root entries
      = (FileTree.contentsOfEntries base entries).map fun found => pathBelow root base found.1 := by
  have hpaths := FileTree.filesInEntries_eq root [] entries
  have hbelow := FileTree.contentsOfEntries_below base [] entries
  rw [List.append_nil] at hbelow
  rw [List.foldl_nil] at hpaths
  rw [hpaths, hbelow, List.map_map]
  simp only [Function.comp_def, pathBelow, List.drop_left]

theorem Disk.IsRoot.filesBelow_eq (hroot : disk.IsRoot root base entries) :
    disk.filesBelow root = .ok ((FileTree.contentsOfEntries base entries).map fun found =>
      pathBelow root base found.1) := by
  have hwhole := Disk.find_eq_ok.2 ⟨base, hroot.located, hroot.holds⟩
  obtain ⟨found, hfound, hat⟩ := Disk.locate_unfollowed hroot.located false
  rw [← filesInEntries_below, Disk.filesBelow]
  rcases hat with rfl | ⟨target, hlink⟩
  · rw [Disk.find_eq_ok.2 ⟨found, hfound, hroot.holds⟩]
    rfl
  · rw [Disk.find_eq_ok.2 ⟨found, hfound, hlink⟩, hwhole]
    rfl

/-- What a path shows: the location it leads to, the file that stands there, and its name. -/
structure Disk.Shows (disk : Disk) (path : String) (found : Location × Option String) : Prop where
  located : disk.locate ⟨true, false⟩ path = .ok found.1
  holds : disk.tree.at? found.1 = some (.file found.2)
  named : ∀ name ∈ found.1, isEntryName name = true
  sameName : Path.fileName? path = Path.fileName? found.1.path

theorem standsAt_of_file {tree : FileTree} {location rest : Location} {text : Option String}
    (hat : tree.at? (location ++ rest) = some (.file text)) : tree.StandsAt location := by
  rw [FileTree.at?_append, Option.bind_eq_some_iff] at hat
  obtain ⟨entry, hentry, hrest⟩ := hat
  refine ⟨entry, hentry, ?_⟩
  rintro target rfl
  cases rest with
  | nil => exact absurd hrest nofun
  | cons name rest => exact absurd hrest nofun

/-- Names that are joined to a path lead down from where it leads. -/
theorem locate_foldl {names : Location} {text : Option String}
    (hlocate : disk.locate ⟨true, false⟩ path = .ok base)
    (hat : disk.tree.at? (base ++ names) = some (.file text))
    (hnamed : ∀ name ∈ names, isEntryName name = true) :
    disk.locate ⟨true, false⟩ (names.foldl Path.join path) = .ok (base ++ names) := by
  induction names generalizing path base with
  | nil => rwa [List.append_nil]
  | cons name rest ih =>
      obtain ⟨hname, hrest⟩ := List.forall_mem_cons.1 hnamed
      rw [List.append_cons] at hat ⊢
      obtain ⟨entry, hentry, hlink⟩ := standsAt_of_file hat
      obtain ⟨entries, hdirectory⟩ := FileTree.hasPlace_of_at? hentry (by simp)
      rw [List.dropLast_concat] at hdirectory
      exact ih (Disk.locate_join hlocate hdirectory hname ⟨entry, hentry, hlink⟩) hat hrest

theorem foldl_join_ne_empty {names : Location} (hpath : path ≠ "")
    (hnamed : ∀ name ∈ names, isEntryName name = true) : names.foldl Path.join path ≠ "" := by
  induction names generalizing path with
  | nil => exact hpath
  | cons name rest ih =>
      obtain ⟨hname, hrest⟩ := List.forall_mem_cons.1 hnamed
      exact ih (join_ne_empty hpath hname) hrest

/-- **Every path that is found leads to its file.** -/
theorem Disk.IsRoot.shows (hroot : disk.IsRoot root base entries) (hproper : disk.IsProper)
    {found : Location × Option String} (hfound : found ∈ FileTree.contentsOfEntries base entries) :
    disk.Shows (pathBelow root base found.1) found := by
  obtain ⟨hnames, hentries⟩ := FileTree.isProper_directory.1
    (FileTree.proper_of_at? hproper.tree hroot.holds).2
  obtain ⟨name, entry, rest, hmem, hlocation, hentry⟩ :=
    FileTree.at?_of_mem_contentsOfEntries entries hentries hfound
  have hat : disk.tree.at? (base ++ name :: rest) = some (.file found.2) := by
    rw [FileTree.at?_append, hroot.holds, Option.bind_some, FileTree.at?_cons, FileTree.child?,
      lookup_of_mem hnames hmem, Option.bind_some, hentry]
  have hnamed := (FileTree.proper_of_at? hproper.tree hat).1
  have hbelow : pathBelow root base found.1 = (name :: rest).foldl Path.join root := by
    rw [pathBelow, hlocation, List.drop_left]
  obtain ⟨hbase, hrest⟩ := List.forall_mem_append.1 hnamed
  refine ⟨?_, ?_, ?_, ?_⟩
  · rw [hbelow, hlocation]
    exact locate_foldl hroot.located hat hrest
  · rwa [hlocation]
  · rwa [hlocation]
  · obtain ⟨above, last, hlast⟩ : ∃ above last, name :: rest = above ++ [last] :=
      ⟨_, _, (List.dropLast_concat_getLast (List.cons_ne_nil _ _)).symm⟩
    rw [hlast] at hbelow hlocation hrest
    obtain ⟨habove, hname⟩ := List.forall_mem_append.1 hrest
    rw [List.forall_mem_singleton] at hname
    have hroot := foldl_join_ne_empty (Disk.locate_eq_ok.1 hroot.located).1 habove
    rw [hbelow, List.foldl_append, hlocation, ← List.append_assoc,
      fileName?_path (List.forall_mem_append.2 ⟨hbase, habove⟩) hname]
    exact fileName?_join hroot hname

/-! ### What is found on a disk that is kept -/

theorem Disk.IsRoot.kept {place : Location} {written : Disk}
    (hroot : disk.IsRoot root base entries) (hkeeps : disk.Keeps place written) :
    ∃ others, written.IsRoot root base others
      ∧ (FileTree.contentsOfEntries base others).filter (·.1 ≠ place)
        = (FileTree.contentsOfEntries base entries).filter (·.1 ≠ place) := by
  obtain ⟨others, hothers, hfiles⟩ := hkeeps.tree.directory hroot.holds
  exact ⟨others, ⟨Disk.locate_kept hkeeps hroot.located (Or.inl rfl) false, hothers⟩, hfiles⟩

theorem Disk.Shows.kept {place : Location} {written : Disk} {found : Location × Option String}
    (hshows : disk.Shows path found) (hkeeps : disk.Keeps place written) :
    ∃ text, written.Shows path (found.1, text) ∧ (found.1 ≠ place → text = found.2) := by
  obtain ⟨text, hholds, htext⟩ := hkeeps.tree.file hshows.holds
  exact ⟨text, ⟨Disk.locate_kept hkeeps hshows.located (Or.inl rfl) false, hholds, hshows.named,
    hshows.sameName⟩, htext⟩

theorem Disk.Shows.readText_eq {found : Location × Option String}
    (hshows : disk.Shows path found) :
    disk.readText path = match found.2 with
      | some text => .ok text
      | none => .error .notText := by
  rw [Disk.readText, Disk.find_eq_ok.2 ⟨found.1, hshows.located, hshows.holds⟩]
  cases found.2 <;> rfl

/-! ### The excluded file -/

theorem canonical?_of_locate {reached : Location}
    (hlocate : disk.locate ⟨true, false⟩ path = .ok reached) :
    disk.canonical? path = some reached.path := by
  rw [Disk.canonical?, hlocate]
  rfl

/-- A file is excluded exactly when its canonical path is the excluded one: it has the name of its
canonical path. -/
theorem Disk.Shows.excludes_eq {found : Location × Option String} (hshows : disk.Shows path found)
    (place : String) :
    disk.excludes (some place) path = decide (disk.canonical? path = some place) := by
  have hcanonical := canonical?_of_locate hshows.located
  rw [Disk.excludes, Option.any_some, hcanonical, hshows.sameName, Bool.eq_iff_iff]
  simp only [Bool.and_eq_true, beq_iff_eq, decide_eq_true_eq, Option.some.injEq]
  exact ⟨fun hboth => hboth.2, fun hplace => ⟨congrArg Path.fileName? hplace, hplace⟩⟩

end FileSystem

namespace CommandLine

/-- What the source files on a disk come to under a configuration. -/
def generationOf (config : Config) (disk : Disk) : Generation :=
  ((gather config : StateM Disk Generation).run disk).1

theorem run_gather_eq (config : Config) (disk : Disk) :
    (gather config : StateM Disk Generation).run disk
      = (⟨disk.scanned (scanRequest config),
          extract config.functionName
            (successes ((disk.scanned (scanRequest config)).files.map disk.source)),
          failures ((disk.scanned (scanRequest config)).files.map disk.source)⟩, disk) := by
  have hloaded := run_loadEach (disk.scanned (scanRequest config)).files disk
  have hsources : (loadSources (disk.scanned (scanRequest config)).files : StateM Disk _).run disk
      = ((successes ((disk.scanned (scanRequest config)).files.map disk.source),
          failures ((disk.scanned (scanRequest config)).files.map disk.source)), disk) := by
    rw [loadSources, run_then hloaded]
    rfl
  rw [gather, run_then (run_scan _ disk), run_then hsources]
  rfl

theorem generationOf_eq (config : Config) (disk : Disk) :
    generationOf config disk
      = ⟨disk.scanned (scanRequest config),
          extract config.functionName
            (successes ((disk.scanned (scanRequest config)).files.map disk.source)),
          failures ((disk.scanned (scanRequest config)).files.map disk.source)⟩ :=
  congrArg Prod.fst (run_gather_eq config disk)

theorem run_gather (config : Config) (disk : Disk) :
    (gather config : StateM Disk Generation).run disk = (generationOf config disk, disk) := by
  rw [run_gather_eq, generationOf_eq]

end CommandLine

end UtilityClasses
