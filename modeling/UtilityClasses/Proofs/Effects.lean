import Mathlib.Data.Set.Insert
import UtilityClasses.Proofs.Aggregation
import UtilityClasses.Proofs.Collected
import UtilityClasses.Proofs.Enumeration
import UtilityClasses.Proofs.Regeneration

/-!
# What generating the module does to the files

A run writes one file at most, the one that the configured output path leads to, and only if it is no
dry run and does not end in an error. A dry run prints what would be written.
-/

namespace UtilityClasses.CommandLine

open FileSystem

variable {disk made left : Disk} {config : Config} {options : GenerateOptions}
  {outcome : Outcome} {path text : String} {place : Location}

/-! ### Files that change -/

/-- The locations where a regular file has come or gone or has got another text. -/
def changedFiles (disk left : Disk) : Set Location :=
  {location | ∃ text, ¬(left.tree.at? location = some (.file text)
    ↔ disk.tree.at? location = some (.file text))}

theorem changedFiles_self (disk : Disk) : changedFiles disk disk = ∅ := by
  simp [changedFiles]

/-- Where a disk is kept, no file comes or goes. -/
theorem changedFiles_subset (hkeeps : disk.Keeps place left) (hdisk : disk.IsProper)
    (hleft : left.IsProper) : changedFiles disk left ⊆ {place} := by
  rintro location ⟨text, hdiffers⟩
  by_contra hplace
  refine hdiffers ?_
  have helsewhere : decide (location ≠ place) = true := decide_eq_true hplace
  have hfiles := congrArg ((location, text) ∈ ·) hkeeps.tree.alike.files
  simp only [List.mem_filter, helsewhere, and_true, eq_iff_iff] at hfiles
  rwa [FileTree.mem_contents_iff hdisk.tree, FileTree.mem_contents_iff hleft.tree] at hfiles

theorem changedFiles_extends (hextends : disk.Extends left) (hdisk : disk.IsProper) :
    changedFiles disk left = ∅ := by
  rw [Set.eq_empty_iff_forall_notMem]
  intro location hchanged
  have helsewhere := changedFiles_subset (hextends.keeps (location ++ [""])) hdisk hextends.proper
    hchanged
  simp at helsewhere

/-! ### A module that cannot be written -/

theorem makeParent_error {error : CommandError}
    (hrun : (makeParent path : StateM Disk (Except CommandError Unit)).run disk
      = (.error error, made)) : made = disk := by
  rw [run_makeParent] at hrun
  split at hrun
  · exact absurd (congrArg Prod.fst hrun) nofun
  · split at hrun
    · exact absurd (congrArg Prod.fst hrun) nofun
    · split at hrun
      · exact absurd (congrArg Prod.fst hrun) nofun
      · exact (congrArg Prod.snd hrun).symm

/-- Where a module cannot be written, its directory may have been made. -/
theorem extends_writeModule {error : CommandError} (hproper : disk.IsProper)
    (hrun : (writeModule path text : StateM Disk (Except CommandError Unit)).run disk
      = (.error error, left)) : disk.Extends left := by
  obtain ⟨answer, made, hparent⟩ : ∃ answer made,
      (makeParent path : StateM Disk (Except CommandError Unit)).run disk = (answer, made) :=
    ⟨_, _, rfl⟩
  rw [run_writeModule hparent] at hrun
  cases answer with
  | error cause =>
      obtain rfl : made = left := congrArg Prod.snd hrun
      rw [makeParent_error hparent]
      exact .refl hproper
  | ok _ =>
      cases hwritten : made.writeFile path (some text) with
      | ok written =>
          simp only [hwritten] at hrun
          exact absurd (congrArg Prod.fst hrun) nofun
      | error cause =>
          simp only [hwritten] at hrun
          obtain rfl : made = left := congrArg Prod.snd hrun
          exact (extends_makeParent hproper hparent).1

/-! ### What a run reads -/

/-- The files that a scan finds under a configuration. -/
def scannedFiles (config : Config) (disk : Disk) : List String :=
  ((scan (scanRequest config) : StateM Disk Scan).run disk).1.files

/-- Those of them that can be read. -/
def readableSources (config : Config) (disk : Disk) : List SourceText :=
  (scannedFiles config disk).filterMap fun path =>
    (disk.readText path).toOption.map (SourceText.mk path)

/-- The module for all classes of the files that can be read. -/
def moduleOf (config : Config) (disk : Disk) : String :=
  renderModule config.constName
    (extract config.functionName (readableSources config disk)).classes.render

/-- A call that cannot be evaluated. -/
def HasFaultyCall (name content : String) : Prop :=
  ∃ site ∈ Source.callSites content name, ∃ cause, evaluateCall site.text name = .error cause

/-- A scanned file that cannot be read, or one with a call that cannot be evaluated. -/
def HasFault (config : Config) (disk : Disk) : Prop :=
  ∃ path ∈ scannedFiles config disk, (∃ error, disk.readText path = .error error)
    ∨ ∃ content, disk.readText path = .ok content ∧ HasFaultyCall config.functionName content

theorem scannedFiles_eq (config : Config) (disk : Disk) :
    scannedFiles config disk = (disk.scanned (scanRequest config)).files := by
  rw [scannedFiles, run_scan]

theorem readableSources_eq (config : Config) (disk : Disk) : readableSources config disk
    = successes ((disk.scanned (scanRequest config)).files.map disk.source) := by
  rw [readableSources, successes, List.filterMap_map, scannedFiles_eq]
  congr 1
  funext path
  rw [Function.comp_apply, Disk.source]
  cases disk.readText path <;> rfl

theorem moduleText_generationOf (config : Config) (disk : Disk) :
    (generationOf config disk).moduleText config = moduleOf config disk := by
  rw [Generation.moduleText, generationOf_eq, moduleOf, readableSources_eq]

theorem mem_failures {ε α : Type} {outcomes : List (Except ε α)} {cause : ε} :
    cause ∈ failures outcomes ↔ .error cause ∈ outcomes := by
  rw [failures, List.mem_filterMap]
  constructor
  · rintro ⟨outcome, hmem, hcause⟩
    cases outcome with
    | ok value => cases hcause
    | error found =>
        rw [← Option.some.inj hcause]
        exact hmem
  · exact fun hmem => ⟨_, hmem, rfl⟩

theorem exists_mem_failures_map {α ε β : Type} {items : List α} {run : α → Except ε β} :
    (∃ cause, cause ∈ failures (items.map run)) ↔ ∃ item ∈ items, ∃ cause, run item = .error cause := by
  simp only [mem_failures, List.mem_map]
  constructor
  · rintro ⟨cause, item, hitem, hcause⟩
    exact ⟨item, hitem, cause, hcause⟩
  · rintro ⟨item, hitem, cause, hcause⟩
    exact ⟨cause, item, hitem, hcause⟩

/-- A text has a warning exactly if it has a call that cannot be evaluated. -/
theorem exists_warning_extractFile {name : String} {source : SourceText} :
    (∃ warning, warning ∈ (extractFile name source).warnings)
      ↔ HasFaultyCall name source.content := by
  rw [extractFile, exists_mem_failures_map, HasFaultyCall]
  refine exists_congr fun site => and_congr_right fun _ => ?_
  rw [Source.CallSite.outcome, resolveCall]
  cases evaluateCall site.text name with
  | error cause => exact iff_of_true ⟨_, rfl⟩ ⟨_, rfl⟩
  | ok value =>
      refine iff_of_false ?_ ?_
      · rintro ⟨warning, hwarning⟩
        cases hwarning
      · rintro ⟨cause, hcause⟩
        cases hcause

theorem exists_source_error :
    (∃ warning, disk.source path = .error warning) ↔ ∃ error, disk.readText path = .error error := by
  rw [Disk.source]
  cases disk.readText path with
  | error error => exact iff_of_true ⟨_, rfl⟩ ⟨_, rfl⟩
  | ok content =>
      refine iff_of_false ?_ ?_
      · rintro ⟨warning, hwarning⟩
        cases hwarning
      · rintro ⟨error, herror⟩
        cases herror

theorem mem_readableSources {source : SourceText} : source ∈ readableSources config disk
    ↔ source.path ∈ scannedFiles config disk ∧ disk.readText source.path = .ok source.content := by
  rw [readableSources_eq, mem_successes, List.mem_map, scannedFiles_eq]
  constructor
  · rintro ⟨path, hpath, hsource⟩
    rw [Disk.source] at hsource
    split at hsource
    · next content hread =>
      rw [← Except.ok.inj hsource]
      exact ⟨hpath, hread⟩
    · cases hsource
  · rintro ⟨hpath, hread⟩
    exact ⟨source.path, hpath, by rw [Disk.source, hread]⟩

theorem mem_warnings {warning : Warning} : warning ∈ (generationOf config disk).warnings
    ↔ warning ∈ failures ((scannedFiles config disk).map disk.source)
      ∨ ∃ source ∈ readableSources config disk,
        warning ∈ (extractFile config.functionName source).warnings := by
  rw [Generation.warnings, Warning.sort, (List.mergeSort_perm _ _).mem_iff, List.mem_append,
    generationOf_eq, scannedFiles_eq, readableSources_eq]
  dsimp only
  rw [warnings_extract, List.mem_flatMap]

/-- **There are warnings exactly if** a scanned file cannot be read or a call cannot be evaluated. -/
theorem warnings_ne_nil_iff (config : Config) (disk : Disk) :
    (generationOf config disk).warnings ≠ [] ↔ HasFault config disk := by
  constructor
  · intro hwarnings
    obtain ⟨warning, hwarning⟩ := List.exists_mem_of_ne_nil _ hwarnings
    rcases mem_warnings.1 hwarning with hunreadable | ⟨source, hsource, hcall⟩
    · obtain ⟨path, hpath, herror⟩ := exists_mem_failures_map.1 ⟨warning, hunreadable⟩
      exact ⟨path, hpath, Or.inl (exists_source_error.1 herror)⟩
    · obtain ⟨hpath, hread⟩ := mem_readableSources.1 hsource
      have hfaulty := exists_warning_extractFile.1 ⟨warning, hcall⟩
      exact ⟨source.path, hpath, Or.inr ⟨source.content, hread, hfaulty⟩⟩
  · rintro ⟨path, hpath, hunreadable | ⟨content, hread, hfaulty⟩⟩
    · obtain ⟨warning, hwarning⟩ :=
        exists_mem_failures_map.2 ⟨path, hpath, exists_source_error.2 hunreadable⟩
      exact List.ne_nil_of_mem (mem_warnings.2 (Or.inl hwarning))
    · have hsource : SourceText.mk path content ∈ readableSources config disk := by
        rw [mem_readableSources]
        exact ⟨hpath, hread⟩
      obtain ⟨warning, hwarning⟩ :
          ∃ warning, warning ∈ (extractFile config.functionName ⟨path, content⟩).warnings :=
        exists_warning_extractFile.2 hfaulty
      exact List.ne_nil_of_mem (mem_warnings.2 (Or.inr ⟨_, hsource, hwarning⟩))

/-! ### What a run prints -/

theorem out_notes (console : Console) (lines : List String) :
    (console.notes lines).out = console.out := by
  rw [Console.notes]
  induction lines generalizing console with
  | nil => rfl
  | cons line rest ih => exact ih (console.note line)

theorem out_conclude (generation : Generation) (options : GenerateOptions) (console : Console) :
    (generation.conclude options console).console.out = console.out := by
  rw [Generation.conclude]
  split <;> rfl

/-- The summary is the last line that is printed. -/
theorem out_finish (generation : Generation) (console : Console) :
    (generation.finish options config console).console.out = console.out
      ++ (generation.summary.line (if options.dryRun then none else some config.output) ++ "\n") := by
  rw [Generation.finish, out_conclude, Generation.report, Console.printLine, Console.print, out_notes]

theorem status_finish (generation : Generation) (console : Console) :
    (generation.finish options config console).status = .failure
      ↔ options.denyWarnings = true ∧ generation.warnings ≠ [] := by
  rw [Generation.finish, Generation.conclude]
  split
  · next hdenied => exact iff_of_true rfl (by simpa using hdenied)
  · next hdenied => exact iff_of_false (by simp [Outcome.succeed]) (by simpa using hdenied)

/-! ### Runs of the command -/

theorem run_findConfigAmong (chain : List String) (disk : Disk) : ∃ found : Option String,
    (findConfigAmong FileAccess.pathExists chain : StateM Disk (Option String)).run disk
      = (found, disk) := by
  induction chain with
  | nil => exact ⟨none, rfl⟩
  | cons directory above ih =>
      have hlook (path : String) : (FileAccess.pathExists path : StateM Disk Bool).run disk
          = (disk.pathExists path, disk) := rfl
      rw [findConfigAmong, run_then (hlook _)]
      split
      · exact ⟨_, rfl⟩
      · rw [run_then (hlook _)]
        split
        · exact ⟨_, rfl⟩
        · exact ih

/-- Loading the configuration changes nothing. -/
theorem run_loadConfig (start : String) (disk : Disk) : ∃ answer,
    (loadConfig start : StateM Disk (Except ConfigError LoadedConfig)).run disk = (answer, disk) := by
  obtain ⟨found, hfound⟩ := run_findConfigAmong (Path.ancestors start) disk
  rw [loadConfig, findConfigFile, run_then hfound]
  cases found with
  | none => exact ⟨_, rfl⟩
  | some path =>
      have hread : (FileAccess.readText path : StateM Disk _).run disk = (disk.readText path, disk) :=
        rfl
      dsimp only
      rw [run_then hread]
      cases disk.readText path with
      | error error => exact ⟨_, rfl⟩
      | ok text => exact ⟨_, rfl⟩

/-- Whether a run gets as far as its module. -/
structure IsReady (config : Config) (disk : Disk) : Prop where
  valid : config.validate = .ok ()
  rooted : disk.isDirectory config.sourceRoot = true

/-- How a run can end, and the disk that it leaves. -/
inductive Course (options : GenerateOptions) (config : Config) (disk : Disk) :
    Outcome → Disk → Prop where
  | stopped {console : Console} {error : CommandError} :
      Course options config disk (.stop console error) disk
  | unwritten {console : Console} {error : CommandError} {left : Disk}
      (hdry : options.dryRun = false)
      (hwritten : (writeModule config.output (moduleOf config disk) :
        StateM Disk (Except CommandError Unit)).run disk = (.error error, left)) :
      Course options config disk (.stop console error) left
  | shown {console : Console} (hready : IsReady config disk) (hdry : options.dryRun = true) :
      Course options config disk ((generationOf config disk).finish options config console) disk
  | written {console : Console} {left : Disk} (hready : IsReady config disk)
      (hdry : options.dryRun = false)
      (hwritten : (writeModule config.output (moduleOf config disk) :
        StateM Disk (Except CommandError Unit)).run disk = (.ok (), left)) :
      Course options config disk ((generationOf config disk).finish options config console) left

theorem course_of_run {console : Console}
    (hrun : (generateWith options config console : StateM Disk Outcome).run disk
      = (outcome, left)) : Course options config disk outcome left := by
  rw [run_generateWith] at hrun
  split at hrun
  · obtain ⟨rfl, rfl⟩ := Prod.mk.inj hrun
    exact .stopped
  · next hvalid =>
    split at hrun
    · next hrooted =>
      cases hdry : options.dryRun with
      | true =>
          rw [run_deliver_dry hdry] at hrun
          obtain ⟨rfl, rfl⟩ := Prod.mk.inj hrun
          exact .shown ⟨hvalid, hrooted⟩ hdry
      | false =>
          obtain ⟨answer, other, hwritten⟩ : ∃ answer other,
              (writeModule config.output (moduleOf config disk) :
                StateM Disk (Except CommandError Unit)).run disk = (answer, other) := ⟨_, _, rfl⟩
          have htext := moduleText_generationOf config disk
          rw [run_deliver hdry (htext ▸ hwritten)] at hrun
          obtain ⟨rfl, rfl⟩ := Prod.mk.inj hrun
          cases answer with
          | error error => exact .unwritten hdry hwritten
          | ok _ => exact .written ⟨hvalid, hrooted⟩ hdry hwritten
    · obtain ⟨rfl, rfl⟩ := Prod.mk.inj hrun
      exact .stopped

theorem run_generateWith_dry (hready : IsReady config disk) (hdry : options.dryRun = true)
    (console : Console) :
    (generateWith options config console : StateM Disk Outcome).run disk
      = ((generationOf config disk).finish options config
          ((console.notes (scanNotes options (generationOf config disk).scan)).print
            (moduleOf config disk)), disk) := by
  rw [run_generateWith, hready.valid, hready.rooted, ← moduleText_generationOf]
  exact run_deliver_dry hdry _ _

variable {loaded : LoadedConfig}

theorem run_generate_error {error : ConfigError} (options : GenerateOptions)
    (hloaded : (loadConfig disk.directory.path : StateM Disk (Except ConfigError LoadedConfig)).run
      disk = (.error error, disk)) :
    (generate options : StateM Disk Outcome).run disk
      = (.stop .empty (.badConfig error), disk) := by
  have hdirectory : (FileAccess.workingDirectory : StateM Disk String).run disk
      = (disk.directory.path, disk) := rfl
  rw [generate, run_then hdirectory, run_then hloaded]
  rfl

theorem run_generate_ok (options : GenerateOptions)
    (hloaded : (loadConfig disk.directory.path : StateM Disk (Except ConfigError LoadedConfig)).run
      disk = (.ok loaded, disk)) :
    (generate options : StateM Disk Outcome).run disk
      = (generateWith options (options.override loaded.config)
          (Console.empty.notes (foundNotes options loaded)) : StateM Disk Outcome).run disk := by
  have hdirectory : (FileAccess.workingDirectory : StateM Disk String).run disk
      = (disk.directory.path, disk) := rfl
  rw [generate, run_then hdirectory, run_then hloaded]

/-! ### Effects -/

/-- What a run that does not end in an error comes to under a configuration. -/
structure HasEffects (options : GenerateOptions) (config : Config) (disk : Disk)
    (outcome : Outcome) (left : Disk) : Prop where
  /-- Unless it is a dry run, it writes the module to the place that the output path leads to, and
  nowhere else. -/
  written : options.dryRun = false → ∃ place,
    left.locate ⟨true, false⟩ config.output = .ok place
      ∧ left.tree.at? place = some (.file (some (moduleOf config disk)))
      ∧ changedFiles disk left ⊆ {place}
  /-- As a dry run, it leaves the disk as it is and prints the module and a summary. -/
  shown : ∃ dry summary,
    (generate { options with dryRun := true } : StateM Disk Outcome).run disk = (dry, disk)
      ∧ dry.status ≠ .error
      ∧ dry.console.out = moduleOf config disk ++ (Summary.line summary none ++ "\n")
  refused : outcome.status = .failure ↔ options.denyWarnings = true ∧ HasFault config disk

/-- Nothing is written in a dry run, nor in a run that ends in an error. -/
theorem Course.changedFiles_eq (hcourse : Course options config disk outcome left)
    (hproper : disk.IsProper) (hquiet : outcome.status = .error ∨ options.dryRun = true) :
    changedFiles disk left = ∅ := by
  cases hcourse with
  | stopped => exact changedFiles_self disk
  | unwritten _ hwritten => exact changedFiles_extends (extends_writeModule hproper hwritten) hproper
  | shown => exact changedFiles_self disk
  | written _ hdry _ =>
      rcases hquiet with herror | hshown
      · exact absurd herror (status_conclude _ _ _)
      · exact absurd (hdry.symm.trans hshown) Bool.false_ne_true

theorem Course.isReady (hcourse : Course options config disk outcome left)
    (hstatus : outcome.status ≠ .error) : IsReady config disk := by
  cases hcourse with
  | stopped => exact absurd rfl hstatus
  | unwritten => exact absurd rfl hstatus
  | shown hready _ => exact hready
  | written hready _ _ => exact hready

theorem Course.status_eq_failure (hcourse : Course options config disk outcome left)
    (hstatus : outcome.status ≠ .error) :
    outcome.status = .failure ↔ options.denyWarnings = true ∧ HasFault config disk := by
  rw [← warnings_ne_nil_iff]
  cases hcourse with
  | stopped => exact absurd rfl hstatus
  | unwritten => exact absurd rfl hstatus
  | shown => exact status_finish _ _
  | written => exact status_finish _ _

theorem Course.exists_place (hcourse : Course options config disk outcome left)
    (hproper : disk.IsProper) (hstatus : outcome.status ≠ .error)
    (hdry : options.dryRun = false) : ∃ place,
      left.locate ⟨true, false⟩ config.output = .ok place
        ∧ left.tree.at? place = some (.file (some (moduleOf config disk)))
        ∧ changedFiles disk left ⊆ {place} := by
  cases hcourse with
  | stopped => exact absurd rfl hstatus
  | unwritten => exact absurd rfl hstatus
  | shown _ hshown => exact absurd (hdry.symm.trans hshown) Bool.false_ne_true
  | written _ _ hwritten =>
      obtain ⟨place, hdelivers⟩ := delivers_writeModule hproper hwritten
      exact ⟨place, hdelivers.located, hdelivers.holds,
        changedFiles_subset hdelivers.keeps hproper hdelivers.proper⟩

/-- As a dry run, a run that is ready prints its module before the summary. -/
theorem exists_dry (options : GenerateOptions)
    (hloaded : (loadConfig disk.directory.path : StateM Disk (Except ConfigError LoadedConfig)).run
      disk = (.ok loaded, disk)) (hready : IsReady (options.override loaded.config) disk) :
    ∃ dry summary, (generate { options with dryRun := true } : StateM Disk Outcome).run disk
        = (dry, disk)
      ∧ dry.status ≠ .error
      ∧ dry.console.out
        = moduleOf (options.override loaded.config) disk ++ (Summary.line summary none ++ "\n") := by
  refine ⟨_, (generationOf (options.override loaded.config) disk).summary,
    (run_generate_ok _ hloaded).trans (run_generateWith_dry hready rfl _), status_conclude _ _ _, ?_⟩
  rw [out_finish, Console.print, out_notes, out_notes, if_pos rfl, Console.empty,
    String.empty_append]

/-- **A run writes the module or nothing.** It writes it, to the place that the output path leads to,
exactly if it is no dry run and does not end in an error; no other file changes. A dry run prints the
same module, and warnings that are denied make a run fail. -/
theorem generate_effects (options : GenerateOptions) (hproper : disk.IsProper) :
    ∃ outcome left, (generate options : StateM Disk Outcome).run disk = (outcome, left)
      ∧ (outcome.status = .error ∨ options.dryRun = true → changedFiles disk left = ∅)
      ∧ (outcome.status ≠ .error → ∃ loaded : LoadedConfig,
        (loadConfig disk.directory.path : StateM Disk (Except ConfigError LoadedConfig)).run disk
            = (.ok loaded, disk)
          ∧ HasEffects options (options.override loaded.config) disk outcome left) := by
  obtain ⟨answer, hloaded⟩ := run_loadConfig disk.directory.path disk
  cases answer with
  | error error =>
      exact ⟨_, disk, run_generate_error options hloaded, fun _ => changedFiles_self disk,
        fun hstatus => absurd rfl hstatus⟩
  | ok loaded =>
      obtain ⟨outcome, left, hended⟩ : ∃ outcome left,
          (generateWith options (options.override loaded.config)
            (Console.empty.notes (foundNotes options loaded)) : StateM Disk Outcome).run disk
              = (outcome, left) := ⟨_, _, rfl⟩
      have hcourse := course_of_run hended
      refine ⟨outcome, left, (run_generate_ok options hloaded).trans hended,
        hcourse.changedFiles_eq hproper, fun hstatus => ⟨loaded, hloaded, ?_⟩⟩
      exact ⟨hcourse.exists_place hproper hstatus,
        exists_dry options hloaded (hcourse.isReady hstatus), hcourse.status_eq_failure hstatus⟩

/-- A readable source, one that is no text, and the module of an earlier run. -/
def brokenDisk (classes : String) : Disk :=
  sourceDisk [sourceFile "a.ts" "a", ("b.ts", .file none), ("gen", .directory []), moduleFile classes]

def denyingOptions : GenerateOptions := ⟨none, some "src/gen/../out.js", none, false, true, false⟩

/-- The module is written although the run fails. -/
theorem generate_effects_denied :
    (brokenDisk "old").IsProper
      ∧ ∃ outcome left, (generate denyingOptions : StateM Disk Outcome).run (brokenDisk "old")
          = (outcome, left)
        ∧ outcome.status = .failure
        ∧ ∃ place, left.locate ⟨true, false⟩ "src/gen/../out.js" = .ok place
          ∧ left.tree.at? place = some (.file (some (renderModule "tailcomp" "a")))
          ∧ changedFiles (brokenDisk "old") left ⊆ {place} := by
  have hproper : (brokenDisk "old").IsProper := ⟨by decide +kernel, _, rfl⟩
  have hloaded : (loadConfig (brokenDisk "old").directory.path :
      StateM Disk (Except ConfigError LoadedConfig)).run (brokenDisk "old")
        = (.ok ⟨.default, false⟩, brokenDisk "old") := rfl
  have hfound : (brokenDisk "old").filesBelow "./src"
      = .ok ["./src/a.ts", "./src/b.ts", "./src/out.js"] := by
    decide +kernel
  have hscan : (brokenDisk "old").scanned (scanRequest (denyingOptions.override .default))
      = ⟨["./src/a.ts", "./src/b.ts"], 0, []⟩ :=
    scanned_sorted hfound (by decide +kernel) (by decide +kernel)
  have htext : (generationOf (denyingOptions.override .default) (brokenDisk "old")).moduleText
      (denyingOptions.override .default) = renderModule "tailcomp" "a" := by
    rw [generationOf_eq, hscan]
    decide +kernel
  have hwritten : (writeModule "src/gen/../out.js" (renderModule "tailcomp" "a") :
      StateM Disk (Except CommandError Unit)).run (brokenDisk "old") = (.ok (), brokenDisk "a") := rfl
  have hfault : HasFault (denyingOptions.override .default) (brokenDisk "old") := by
    refine ⟨"./src/b.ts", ?_, Or.inl ⟨.notText, by decide +kernel⟩⟩
    rw [scannedFiles_eq, hscan]
    decide
  obtain ⟨outcome, left, hrun, -, heffects⟩ := generate_effects denyingOptions hproper
  obtain ⟨ended, hended, hsuccess⟩ := generateWith_writes denyingOptions
    (Console.empty.notes (foundNotes denyingOptions ⟨.default, false⟩)) rfl (by decide +kernel)
    (by decide +kernel) htext hwritten
  have hwhole := hrun.symm.trans ((run_generate_ok denyingOptions hloaded).trans hended)
  obtain ⟨rfl, rfl⟩ := Prod.mk.inj hwhole
  obtain ⟨loaded, hagain, heffects⟩ := heffects hsuccess
  obtain rfl : loaded = ⟨.default, false⟩ :=
    Except.ok.inj (Prod.mk.inj (hagain.symm.trans hloaded)).1
  obtain ⟨place, hplace, hholds, hchanged⟩ := heffects.written rfl
  rw [← moduleText_generationOf, htext] at hholds
  exact ⟨hproper, outcome, _, hrun, heffects.refused.2 ⟨rfl, hfault⟩, place, hplace, hholds,
    hchanged⟩

end UtilityClasses.CommandLine
