import Mathlib.Data.List.Basic
import UtilityClasses.Proofs.Scans

/-!
# Generating the module again

The module of an earlier run is no source. So a run on the disk that a run has left finds the same
files, collects the same classes and writes the same module, unless the earlier run took the file
that it replaced for a source. It does so only where the output path leads nowhere until directories
are made.
-/

namespace UtilityClasses.CommandLine

open FileSystem

variable {disk made written : Disk} {config : Config} {options : GenerateOptions}
  {console : Console} {outcome : Outcome} {path text : String} {place base : Location}
  {entries others : List (String × FileTree)}

/-! ### Writing the module -/

theorem run_makeParent (path : String) (disk : Disk) :
    (makeParent path : StateM Disk (Except CommandError Unit)).run disk
      = match Path.parent? path with
        | none => (.ok (), disk)
        | some parent =>
          if parent = "" then (.ok (), disk)
          else match disk.makeDirectories parent with
            | .ok made => (.ok (), made)
            | .error error => (.error (.directoryNotMade parent error), disk) := by
  rw [makeParent]
  split
  · next hparent => rw [hparent]; rfl
  · next hparent => rw [hparent]; rfl
  · next parent hempty hparent =>
    rw [hparent]
    dsimp only
    rw [if_neg hempty]
    have hmade : (FileAccess.createDirectories parent : StateM Disk _).run disk
        = match disk.makeDirectories parent with
          | .ok made => (.ok (), made)
          | .error error => (.error error, disk) := rfl
    rw [StateT.run_bind, hmade]
    cases disk.makeDirectories parent <;> rfl

/-- Making the directory of a file extends the disk, and is nothing to do wherever that is kept. -/
theorem extends_makeParent (hproper : disk.IsProper)
    (hrun : (makeParent path : StateM Disk (Except CommandError Unit)).run disk = (.ok (), made)) :
    disk.Extends made ∧ ∀ place written, made.Keeps place written →
      (makeParent path : StateM Disk (Except CommandError Unit)).run written = (.ok (), written) := by
  rw [run_makeParent] at hrun
  simp only [run_makeParent]
  cases hparent : Path.parent? path with
  | none =>
      rw [hparent] at hrun
      obtain rfl : disk = made := congrArg Prod.snd hrun
      exact ⟨.refl hproper, fun _ _ _ => rfl⟩
  | some parent =>
      rw [hparent] at hrun
      dsimp only at hrun ⊢
      by_cases hempty : parent = ""
      · rw [if_pos hempty] at hrun
        obtain rfl : disk = made := congrArg Prod.snd hrun
        exact ⟨.refl hproper, fun _ _ _ => if_pos hempty⟩
      · rw [if_neg hempty] at hrun
        cases hmade : disk.makeDirectories parent with
        | error error =>
            rw [hmade] at hrun
            exact absurd (congrArg Prod.fst hrun) nofun
        | ok other =>
            rw [hmade] at hrun
            obtain rfl : other = made := congrArg Prod.snd hrun
            obtain ⟨hextends, hdirectory⟩ := Disk.extends_makeDirectories hproper hempty hmade
            refine ⟨hextends, fun place written hkeeps => ?_⟩
            rw [if_neg hempty, Disk.makeDirectories_again (Disk.isDirectory_kept hkeeps hdirectory)]

/-- What writing the module comes to. -/
structure Delivers (disk : Disk) (path text : String) (written : Disk) (place : Location) :
    Prop where
  keeps : disk.Keeps place written
  proper : written.IsProper
  located : written.locate ⟨true, false⟩ path = .ok place
  holds : written.tree.at? place = some (.file (some text))
  again : (writeModule path text : StateM Disk (Except CommandError Unit)).run written
    = (.ok (), written)

theorem run_writeModule {answer : Except CommandError Unit}
    (hparent : (makeParent path : StateM Disk (Except CommandError Unit)).run disk = (answer, made)) :
    (writeModule path text : StateM Disk (Except CommandError Unit)).run disk
      = match answer with
        | .error error => (.error error, made)
        | .ok _ => match made.writeFile path (some text) with
          | .ok written => (.ok (), written)
          | .error error => (.error (.moduleNotWritten path error), made) := by
  rw [writeModule, run_then hparent]
  cases answer with
  | error error => rfl
  | ok _ =>
      have hwritten : (FileAccess.writeText path text : StateM Disk _).run made
          = match made.writeFile path (some text) with
            | .ok written => (.ok (), written)
            | .error error => (.error error, made) := rfl
      dsimp only
      rw [StateT.run_bind, hwritten]
      cases made.writeFile path (some text) <;> rfl

/-- **A module that is written stands at its path, and the rest of the disk is kept.** -/
theorem delivers_writeModule (hproper : disk.IsProper)
    (hrun : (writeModule path text : StateM Disk (Except CommandError Unit)).run disk
      = (.ok (), written)) : ∃ place, Delivers disk path text written place := by
  obtain ⟨answer, made, hparent⟩ : ∃ answer made,
      (makeParent path : StateM Disk (Except CommandError Unit)).run disk = (answer, made) :=
    ⟨_, _, rfl⟩
  rw [run_writeModule hparent] at hrun
  cases answer with
  | error error => exact absurd (congrArg Prod.fst hrun) nofun
  | ok _ =>
      cases hwritten : made.writeFile path (some text) with
      | error error =>
          simp only [hwritten] at hrun
          exact absurd (congrArg Prod.fst hrun) nofun
      | ok other =>
          simp only [hwritten] at hrun
          obtain rfl : other = written := congrArg Prod.snd hrun
          obtain ⟨hextends, hagain⟩ := extends_makeParent hproper hparent
          obtain ⟨place, hwrites⟩ := Disk.writes_writeFile hextends.proper hwritten
          refine ⟨place, (hextends.keeps place).trans hwrites.keeps, hwrites.proper,
            hwrites.located, hwrites.holds, ?_⟩
          rw [run_writeModule (hagain place other hwrites.keeps), hwrites.again]

/-! ### Runs that succeed -/

theorem status_conclude (generation : Generation) (options : GenerateOptions) (console : Console) :
    (generation.conclude options console).status ≠ .error := by
  rw [Generation.conclude]
  split
  · exact nofun
  · exact nofun

/-- The course of a run: it stops before anything is written, or its module is shown or written. -/
theorem run_generateWith (options : GenerateOptions) (config : Config) (console : Console)
    (disk : Disk) :
    (generateWith options config console : StateM Disk Outcome).run disk
      = match config.validate with
        | .error fault => (.stop console (.badConfig (.invalid fault)), disk)
        | .ok _ =>
          if disk.isDirectory config.sourceRoot then
            (deliver options config (generationOf config disk)
              (console.notes (scanNotes options (generationOf config disk).scan)) :
                StateM Disk Outcome).run disk
          else (.stop console (.noSourceRoot config.sourceRoot), disk) := by
  have hroot : (FileAccess.isDirectory config.sourceRoot : StateM Disk Bool).run disk
      = (disk.isDirectory config.sourceRoot, disk) := rfl
  rw [generateWith]
  cases config.validate with
  | error fault => rfl
  | ok _ =>
      dsimp only
      rw [run_then hroot]
      cases disk.isDirectory config.sourceRoot with
      | false => rfl
      | true => rw [if_pos rfl, if_pos rfl, run_then (run_gather config disk)]

theorem run_deliver_dry (hdry : options.dryRun = true) (generation : Generation)
    (console : Console) :
    (deliver options config generation console : StateM Disk Outcome).run disk
      = (generation.finish options config (console.print (generation.moduleText config)), disk) := by
  rw [deliver, hdry, if_pos rfl]
  rfl

/-- What a run ends with once the module has been written or could not be. -/
def endingOf (options : GenerateOptions) (config : Config) (generation : Generation)
    (console : Console) : Except CommandError Unit → Outcome
  | .error error => .stop console error
  | .ok _ => generation.finish options config console

theorem run_deliver {generation : Generation} {answer : Except CommandError Unit}
    (hdry : options.dryRun = false)
    (hwritten : (writeModule config.output (generation.moduleText config) :
      StateM Disk (Except CommandError Unit)).run disk = (answer, written)) (console : Console) :
    (deliver options config generation console : StateM Disk Outcome).run disk
      = (endingOf options config generation console answer, written) := by
  rw [deliver, hdry, if_neg Bool.false_ne_true, run_then hwritten]
  cases answer <;> rfl

/-- **A run succeeds exactly when** the configuration is valid, its source root is a directory and
the module of what is found there can be written. -/
theorem generateWith_succeeds_iff (hdry : options.dryRun = false) :
    (generateWith options config console : StateM Disk Outcome).run disk = (outcome, written)
        ∧ outcome.status ≠ .error
      ↔ config.validate = .ok () ∧ disk.isDirectory config.sourceRoot = true
        ∧ (writeModule config.output ((generationOf config disk).moduleText config) :
            StateM Disk (Except CommandError Unit)).run disk = (.ok (), written)
        ∧ outcome = (generationOf config disk).finish options config
            (console.notes (scanNotes options (generationOf config disk).scan)) := by
  have hstops {console : Console} {error : CommandError} {left : Disk} :
      ¬((Outcome.stop console error, left) = (outcome, written) ∧ outcome.status ≠ .error) :=
    fun hboth => hboth.2 (congrArg (fun result => result.1.status) hboth.1).symm
  rw [run_generateWith]
  cases config.validate with
  | error fault => exact iff_of_false hstops fun hall => absurd hall.1 nofun
  | ok _ =>
      dsimp only
      cases disk.isDirectory config.sourceRoot with
      | false => exact iff_of_false hstops fun hall => absurd hall.2.1 Bool.false_ne_true
      | true =>
          obtain ⟨answer, left, hwritten⟩ : ∃ answer left,
              (writeModule config.output ((generationOf config disk).moduleText config) :
                StateM Disk (Except CommandError Unit)).run disk = (answer, left) := ⟨_, _, rfl⟩
          rw [if_pos rfl, run_deliver hdry hwritten, hwritten]
          cases answer with
          | error error =>
              exact iff_of_false hstops fun hall => absurd (congrArg Prod.fst hall.2.2.1) nofun
          | ok _ =>
              constructor
              · rintro ⟨hrun, -⟩
                obtain ⟨hfinish, hleft⟩ := Prod.mk.inj hrun
                exact ⟨rfl, rfl, congrArg _ hleft, hfinish.symm⟩
              · rintro ⟨-, -, hleft, rfl⟩
                obtain rfl : left = written := congrArg Prod.snd hleft
                exact ⟨rfl, status_conclude _ _ _⟩

/-- A run whose module is known and can be written succeeds. -/
theorem generateWith_writes (options : GenerateOptions) (console : Console)
    (hdry : options.dryRun = false) (hvalid : config.validate = .ok ())
    (hdirectory : disk.isDirectory config.sourceRoot = true)
    (htext : (generationOf config disk).moduleText config = text)
    (hwritten : (writeModule config.output text : StateM Disk (Except CommandError Unit)).run disk
      = (.ok (), written)) :
    ∃ outcome, (generateWith options config console : StateM Disk Outcome).run disk
        = (outcome, written) ∧ outcome.status ≠ .error := by
  subst htext
  exact ⟨_, (generateWith_succeeds_iff hdry).2 ⟨hvalid, hdirectory, hwritten, rfl⟩⟩

/-! ### Files that are found again -/

/-- Whether a path leads to something else than the module that has been written. -/
def leadsElsewhere (config : Config) (written : Disk) (path : String) : Bool :=
  decide (written.canonical? path ≠ written.canonical? config.output)

/-- The wanted files below the source root. -/
def wantedPaths (config : Config) (base : Location) (entries : List (String × FileTree)) :
    List String :=
  ((FileTree.contentsOfEntries base entries).map fun found =>
    pathBelow config.sourceRoot base found.1).filter (scanRequest config).wants

theorem scanned_eq (hroot : disk.IsRoot config.sourceRoot base entries) :
    disk.scanned (scanRequest config)
      = ⟨sortPaths ((wantedPaths config base entries).filter fun path =>
          !disk.excludes (disk.canonical? config.output) path), 0,
        (scanRequest config).patternWarnings⟩ := by
  have hfound : disk.filesBelow (scanRequest config).root
      = .ok ((FileTree.contentsOfEntries base entries).map fun found =>
        pathBelow config.sourceRoot base found.1) := hroot.filesBelow_eq
  rw [Disk.scanned, hfound]
  rfl

/-- Every path that a scan gives shows a file. -/
theorem shows_of_mem_scanned (hproper : disk.IsProper)
    (hroot : disk.IsRoot config.sourceRoot base entries)
    (hpath : path ∈ (disk.scanned (scanRequest config)).files) : ∃ file, disk.Shows path file := by
  rw [scanned_eq hroot] at hpath
  have hwanted := (List.mem_filter.1 ((List.mergeSort_perm _ _).mem_iff.1 hpath)).1
  obtain ⟨file, hfile, rfl⟩ := List.mem_map.1 (List.mem_filter.1 hwanted).1
  exact ⟨file, hroot.shows hproper hfile⟩

variable (hdelivers : Delivers disk config.output text written place)

include hdelivers

theorem leadsElsewhere_iff {found : Location × Option String} (hshows : written.Shows path found) :
    leadsElsewhere config written path = true ↔ found.1 ≠ place := by
  have hplace := (FileTree.proper_of_at? hdelivers.proper.tree hdelivers.holds).1
  rw [leadsElsewhere, decide_eq_true_iff, canonical?_of_locate hshows.located,
    canonical?_of_locate hdelivers.located, ne_eq, Option.some.injEq]
  exact not_congr ⟨path_injective hshows.named hplace, congrArg Location.path⟩

/-- The paths that lead elsewhere are those of the files that stand elsewhere. -/
theorem filter_leadsElsewhere {found : List (Location × Option String)}
    (hshows : ∀ file ∈ found, ∃ text,
      written.Shows (pathBelow config.sourceRoot base file.1) (file.1, text)) :
    (found.map fun file => pathBelow config.sourceRoot base file.1).filter
        (leadsElsewhere config written)
      = (found.filter (·.1 ≠ place)).map fun file => pathBelow config.sourceRoot base file.1 := by
  rw [List.filter_map]
  congr 1
  refine List.filter_congr fun file hfile => ?_
  obtain ⟨text, hshown⟩ := hshows file hfile
  rw [Function.comp_apply, Bool.eq_iff_iff, leadsElsewhere_iff hdelivers hshown]
  exact decide_eq_true_iff.symm

/-- **Both runs find the same files, apart from the module.** -/
theorem filter_wantedPaths (hproper : disk.IsProper)
    (hroot : disk.IsRoot config.sourceRoot base entries)
    (hothers : written.IsRoot config.sourceRoot base others)
    (hfiles : (FileTree.contentsOfEntries base others).filter (·.1 ≠ place)
      = (FileTree.contentsOfEntries base entries).filter (·.1 ≠ place)) :
    (wantedPaths config base others).filter (leadsElsewhere config written)
      = (wantedPaths config base entries).filter (leadsElsewhere config written) := by
  have hfirst : ∀ file ∈ FileTree.contentsOfEntries base entries, ∃ text,
      written.Shows (pathBelow config.sourceRoot base file.1) (file.1, text) := fun file hfile => by
    obtain ⟨text, hshown, -⟩ := (hroot.shows hproper hfile).kept hdelivers.keeps
    exact ⟨text, hshown⟩
  have hsecond : ∀ file ∈ FileTree.contentsOfEntries base others, ∃ text,
      written.Shows (pathBelow config.sourceRoot base file.1) (file.1, text) :=
    fun file hfile => ⟨file.2, hothers.shows hdelivers.proper hfile⟩
  rw [wantedPaths, wantedPaths, List.filter_comm, filter_leadsElsewhere hdelivers hsecond, hfiles,
    ← filter_leadsElsewhere hdelivers hfirst, List.filter_comm]

/-- The second run takes every file that leads elsewhere for a source, and no other. -/
theorem scanned_written (hproper : disk.IsProper)
    (hroot : disk.IsRoot config.sourceRoot base entries) :
    written.scanned (scanRequest config)
      = ⟨sortPaths ((wantedPaths config base entries).filter (leadsElsewhere config written)), 0,
        (scanRequest config).patternWarnings⟩ := by
  obtain ⟨others, hothers, hfiles⟩ := hroot.kept hdelivers.keeps
  have hexcludes : ∀ path ∈ wantedPaths config base others,
      (!written.excludes (written.canonical? config.output) path)
        = leadsElsewhere config written path := by
    intro path hpath
    obtain ⟨file, hfile, rfl⟩ := List.mem_map.1 (List.mem_filter.1 hpath).1
    have hshown := hothers.shows hdelivers.proper hfile
    rw [leadsElsewhere, canonical?_of_locate hdelivers.located, hshown.excludes_eq, decide_not]
  rw [scanned_eq hothers, List.filter_congr hexcludes,
    filter_wantedPaths hdelivers hproper hroot hothers hfiles]

/-- Where the output path leads somewhere before the first run, that is where the module is
written, and the first run leaves it out already. -/
theorem scanned_eq_of_canonical (hproper : disk.IsProper)
    (hroot : disk.IsRoot config.sourceRoot base entries)
    (hcanonical : disk.canonical? config.output ≠ none) :
    disk.scanned (scanRequest config) = written.scanned (scanRequest config) := by
  cases hlocate : disk.locate ⟨true, false⟩ config.output with
  | error error =>
      rw [Disk.canonical?, hlocate] at hcanonical
      exact absurd rfl hcanonical
  | ok reached =>
      have hkept := Disk.locate_kept hdelivers.keeps hlocate (Or.inl rfl) false
      obtain rfl : place = reached := Except.ok.inj (hdelivers.located.symm.trans hkept)
      have hexcludes : ∀ path ∈ wantedPaths config base entries,
          (!disk.excludes (disk.canonical? config.output) path)
            = leadsElsewhere config written path := by
        intro path hpath
        obtain ⟨file, hfile, rfl⟩ := List.mem_map.1 (List.mem_filter.1 hpath).1
        have hshown := hroot.shows hproper hfile
        obtain ⟨text, hkept, -⟩ := hshown.kept hdelivers.keeps
        rw [leadsElsewhere, canonical?_of_locate hlocate, hshown.excludes_eq,
          canonical?_of_locate hdelivers.located, canonical?_of_locate hshown.located,
          canonical?_of_locate hkept.located, decide_not]
      rw [scanned_written hdelivers hproper hroot, scanned_eq hroot, List.filter_congr hexcludes]

/-- The first run finds what the second one finds, or it finds the wanted files without exception. -/
theorem scanned_first (hproper : disk.IsProper)
    (hroot : disk.IsRoot config.sourceRoot base entries) :
    disk.scanned (scanRequest config) = written.scanned (scanRequest config)
      ∨ disk.scanned (scanRequest config) = ⟨sortPaths (wantedPaths config base entries), 0,
          (scanRequest config).patternWarnings⟩ := by
  by_cases hcanonical : disk.canonical? config.output = none
  · refine Or.inr ?_
    rw [scanned_eq hroot, hcanonical]
    simp [Disk.excludes]
  · exact Or.inl (scanned_eq_of_canonical hdelivers hproper hroot hcanonical)

theorem mem_scanned_written (hproper : disk.IsProper)
    (hroot : disk.IsRoot config.sourceRoot base entries)
    (hpath : path ∈ (written.scanned (scanRequest config)).files) :
    leadsElsewhere config written path = true := by
  rw [scanned_written hdelivers hproper hroot] at hpath
  exact (List.mem_filter.1 ((List.mergeSort_perm _ _).mem_iff.1 hpath)).2

/-- The second run leaves out the module, and keeps whatever else the first one has found. -/
theorem scanned_perm (hproper : disk.IsProper)
    (hroot : disk.IsRoot config.sourceRoot base entries) :
    (written.scanned (scanRequest config)).files.Perm
      ((disk.scanned (scanRequest config)).files.filter (leadsElsewhere config written)) := by
  rcases scanned_first hdelivers hproper hroot with hsame | hall
  · have hkept : ∀ path ∈ (written.scanned (scanRequest config)).files,
        leadsElsewhere config written path = true := fun path hpath =>
      mem_scanned_written hdelivers hproper hroot hpath
    rw [hsame, List.filter_eq_self.2 hkept]
  · rw [hall, scanned_written hdelivers hproper hroot]
    exact (List.mergeSort_perm _ _).trans ((List.mergeSort_perm _ _).filter _).symm

/-- **When the first run has taken the module for no source, the second one finds the same.** -/
theorem scanned_again (hproper : disk.IsProper)
    (hroot : disk.IsRoot config.sourceRoot base entries)
    (helsewhere : ∀ path ∈ (disk.scanned (scanRequest config)).files,
      leadsElsewhere config written path = true) :
    written.scanned (scanRequest config) = disk.scanned (scanRequest config) := by
  rcases scanned_first hdelivers hproper hroot with hsame | hall
  · exact hsame.symm
  · rw [hall] at helsewhere
    rw [hall, scanned_written hdelivers hproper hroot, List.filter_eq_self.2 fun path hpath =>
      helsewhere path ((List.mergeSort_perm _ _).mem_iff.2 hpath)]

/-- What leads elsewhere reads the same. -/
theorem source_again (hproper : disk.IsProper)
    (hroot : disk.IsRoot config.sourceRoot base entries)
    (hpath : path ∈ (disk.scanned (scanRequest config)).files)
    (helsewhere : leadsElsewhere config written path = true) :
    written.source path = disk.source path := by
  obtain ⟨file, hshown⟩ := shows_of_mem_scanned hproper hroot hpath
  obtain ⟨text, hkept, htext⟩ := hshown.kept hdelivers.keeps
  obtain rfl : text = file.2 := htext ((leadsElsewhere_iff hdelivers hkept).1 helsewhere)
  rw [Disk.source, Disk.source, hshown.readText_eq, hkept.readText_eq]

theorem generationOf_again (hproper : disk.IsProper)
    (hroot : disk.IsRoot config.sourceRoot base entries)
    (helsewhere : ∀ path ∈ (disk.scanned (scanRequest config)).files,
      leadsElsewhere config written path = true) :
    generationOf config written = generationOf config disk := by
  have hsources : (disk.scanned (scanRequest config)).files.map written.source
      = (disk.scanned (scanRequest config)).files.map disk.source :=
    List.map_congr_left fun path hpath =>
      source_again hdelivers hproper hroot hpath (helsewhere path hpath)
  rw [generationOf_eq, generationOf_eq, scanned_again hdelivers hproper hroot helsewhere, hsources]

/-- A file that is found has the same canonical path on both disks. -/
theorem canonical?_of_mem_scanned (hproper : disk.IsProper)
    (hroot : disk.IsRoot config.sourceRoot base entries)
    (hpath : path ∈ (disk.scanned (scanRequest config)).files) :
    written.canonical? path = disk.canonical? path := by
  obtain ⟨file, hshown⟩ := shows_of_mem_scanned hproper hroot hpath
  obtain ⟨text, hkept, -⟩ := hshown.kept hdelivers.keeps
  rw [canonical?_of_locate hshown.located, canonical?_of_locate hkept.located]

omit hdelivers

/-! ### The second run -/

/-- **A run on the disk that a successful run has left.** It finds the same files but for the module.
It comes to the same and leaves the disk as it is exactly when the first run has not taken the module
for a source; and that is so whenever the output path led somewhere before, or nothing did stand where
the module is written. -/
theorem generateWith_again (hproper : disk.IsProper) (hdry : options.dryRun = false)
    (hrun : (generateWith options config console : StateM Disk Outcome).run disk
      = (outcome, written)) (hsuccess : outcome.status ≠ .error) :
    (generationOf config written).scan.files.Perm
        ((generationOf config disk).scan.files.filter (leadsElsewhere config written))
      ∧ ((∀ path ∈ (generationOf config disk).scan.files,
          leadsElsewhere config written path = true) ↔
        generationOf config written = generationOf config disk
          ∧ (generateWith options config console : StateM Disk Outcome).run written
            = (outcome, written))
      ∧ (disk.canonical? config.output ≠ none
          ∨ (∀ path, disk.canonical? path ≠ written.canonical? config.output) →
        ∀ path ∈ (generationOf config disk).scan.files,
          leadsElsewhere config written path = true) := by
  obtain ⟨hvalid, hdirectory, hwritten, houtcome⟩ :=
    (generateWith_succeeds_iff hdry).1 ⟨hrun, hsuccess⟩
  obtain ⟨place, hdelivers⟩ := delivers_writeModule hproper hwritten
  obtain ⟨base, entries, hroot⟩ := exists_isRoot hdirectory
  have hfirst : (generationOf config disk).scan = disk.scanned (scanRequest config) := by
    rw [generationOf_eq]
  have hsecond : (generationOf config written).scan = written.scanned (scanRequest config) := by
    rw [generationOf_eq]
  refine ⟨?_, ⟨fun helsewhere => ?_, ?_⟩, ?_⟩
  · rw [hfirst, hsecond]
    exact scanned_perm hdelivers hproper hroot
  · rw [hfirst] at helsewhere
    have hsame := generationOf_again hdelivers hproper hroot helsewhere
    have hdirectory' := Disk.isDirectory_kept hdelivers.keeps hdirectory
    refine ⟨hsame, ((generateWith_succeeds_iff hdry).2 ⟨hvalid, hdirectory', ?_, ?_⟩).1⟩
    · rw [hsame]
      exact hdelivers.again
    · rw [hsame]
      exact houtcome
  · -- The second run has no use for the module, so neither has the first one if they find the same.
    rintro ⟨hsame, -⟩ path hpath
    rw [← hsame, hsecond] at hpath
    exact mem_scanned_written hdelivers hproper hroot hpath
  · intro hoften path hpath
    rw [hfirst] at hpath
    rcases hoften with hcanonical | hvacant
    · rw [scanned_eq_of_canonical hdelivers hproper hroot hcanonical] at hpath
      exact mem_scanned_written hdelivers hproper hroot hpath
    · rw [leadsElsewhere, canonical?_of_mem_scanned hdelivers hproper hroot hpath]
      exact decide_eq_true (hvacant path)

/-! A small project: sources in one directory, and a configuration whose output path leads up again
from a directory that may not exist yet. -/

def sourceDisk (files : List (String × FileTree)) : Disk :=
  ⟨.directory [("project", .directory [("src", .directory files)])], ["project"]⟩

def sourceFile (name classes : String) : String × FileTree :=
  (name, .file (some ("tc(\x7bbase:\x7bstatic:'" ++ classes ++ "'\x7d\x7d)")))

def moduleFile (classes : String) : String × FileTree :=
  ("out.js", .file (some (renderModule "tailcomp" classes)))

def upwardConfig : Config := { Config.default with output := "src/gen/../out.js" }

def plainOptions : GenerateOptions := ⟨none, none, none, false, false, false⟩

theorem validate_upwardConfig : upwardConfig.validate = .ok () := by decide +kernel

/-- Nothing stands where the module is written, beside a directory that is made on the way. -/
theorem generateWith_again_upward :
    let disk := sourceDisk [sourceFile "a.ts" "a"]
    let written := sourceDisk [sourceFile "a.ts" "a", ("gen", .directory []), moduleFile "a"]
    disk.IsProper ∧ plainOptions.dryRun = false
      ∧ ∃ outcome, outcome.status ≠ .error
        ∧ (generateWith plainOptions upwardConfig .empty : StateM Disk Outcome).run disk
          = (outcome, written)
        ∧ (generateWith plainOptions upwardConfig .empty : StateM Disk Outcome).run written
          = (outcome, written) := by
  intro disk written
  have hproper : disk.IsProper := ⟨by decide +kernel, _, rfl⟩
  have hfound : disk.filesBelow upwardConfig.sourceRoot = .ok ["./src/a.ts"] := by
    decide +kernel
  have hscan : disk.scanned (scanRequest upwardConfig) = ⟨["./src/a.ts"], 0, []⟩ :=
    scanned_sorted hfound (by decide +kernel) (List.pairwise_singleton _ _)
  have htext : (generationOf upwardConfig disk).moduleText upwardConfig
      = renderModule "tailcomp" "a" := by
    rw [generationOf_eq, hscan]
    decide +kernel
  have hwritten : (writeModule upwardConfig.output (renderModule "tailcomp" "a") :
      StateM Disk (Except CommandError Unit)).run disk = (.ok (), written) := rfl
  obtain ⟨outcome, hrun, hsuccess⟩ := generateWith_writes plainOptions .empty rfl
    validate_upwardConfig (by decide +kernel) htext hwritten
  refine ⟨hproper, rfl, outcome, hsuccess, hrun, ?_⟩
  refine ((generateWith_again hproper rfl hrun hsuccess).2.1.1 ?_).2
  rw [generationOf_eq, hscan]
  decide +kernel

/-- The file that the module replaces is a source of the first run and not of the second one, which
writes another module. -/
theorem replaced_file_is_source_once :
    let disk := sourceDisk [sourceFile "a.ts" "a", sourceFile "out.js" "b"]
    let once := sourceDisk [sourceFile "a.ts" "a", moduleFile "a b", ("gen", .directory [])]
    let twice := sourceDisk [sourceFile "a.ts" "a", moduleFile "a", ("gen", .directory [])]
    disk.IsProper
      ∧ ∃ first second, first.status ≠ .error ∧ second.status ≠ .error
        ∧ (generateWith plainOptions upwardConfig .empty : StateM Disk Outcome).run disk
          = (first, once)
        ∧ (generateWith plainOptions upwardConfig .empty : StateM Disk Outcome).run once
          = (second, twice) := by
  intro disk once twice
  have hfound : disk.filesBelow upwardConfig.sourceRoot = .ok ["./src/a.ts", "./src/out.js"] := by
    decide +kernel
  have hfirst : disk.scanned (scanRequest upwardConfig)
      = ⟨["./src/a.ts", "./src/out.js"], 0, []⟩ :=
    scanned_sorted hfound (by decide +kernel) (by decide +kernel)
  have hagain : once.filesBelow upwardConfig.sourceRoot = .ok ["./src/a.ts", "./src/out.js"] := by
    decide +kernel
  have hsecond : once.scanned (scanRequest upwardConfig) = ⟨["./src/a.ts"], 0, []⟩ :=
    scanned_sorted hagain (by decide +kernel) (List.pairwise_singleton _ _)
  have hboth : (generationOf upwardConfig disk).moduleText upwardConfig
      = renderModule "tailcomp" "a b" := by
    rw [generationOf_eq, hfirst]
    decide +kernel
  have hone : (generationOf upwardConfig once).moduleText upwardConfig
      = renderModule "tailcomp" "a" := by
    rw [generationOf_eq, hsecond]
    decide +kernel
  have honce : (writeModule upwardConfig.output (renderModule "tailcomp" "a b") :
      StateM Disk (Except CommandError Unit)).run disk = (.ok (), once) := rfl
  have htwice : (writeModule upwardConfig.output (renderModule "tailcomp" "a") :
      StateM Disk (Except CommandError Unit)).run once = (.ok (), twice) := rfl
  obtain ⟨first, hfirstRun, hfirstSuccess⟩ := generateWith_writes plainOptions .empty rfl
    validate_upwardConfig (by decide +kernel) hboth honce
  obtain ⟨second, hsecondRun, hsecondSuccess⟩ := generateWith_writes plainOptions .empty rfl
    validate_upwardConfig (by decide +kernel) hone htwice
  exact ⟨⟨by decide +kernel, _, rfl⟩, first, second, hfirstSuccess, hsecondSuccess, hfirstRun,
    hsecondRun⟩

end UtilityClasses.CommandLine
