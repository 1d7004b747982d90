import UtilityClasses.Proofs.Walks

/-!
# What an operation leaves on a disk

Making directories and writing a file keep everything else: paths lead where they led before, and
files elsewhere hold the same text. What an operation has made is found by its path, and making it
again changes nothing.
-/

namespace UtilityClasses.FileSystem.Disk

open FileTree (Leads StandsAt IsReachable)

variable {disk changed made written : Disk} {place reached : Location} {path : String}
  {following : Following} {entry : FileTree} {entries : List (String × FileTree)}
  {text : Option String}

/-- A disk whose tree is proper and whose working directory exists. -/
structure IsProper (disk : Disk) : Prop where
  tree : disk.tree.isProper = true
  directory : ∃ entries, disk.tree.at? disk.directory = some (.directory entries)

/-- Whatever stands on a disk has a like of it on the changed disk, except for the text of a file at
a place. -/
structure Keeps (place : Location) (disk changed : Disk) : Prop where
  tree : FileTree.Keeps place [] disk.tree changed.tree
  directory : changed.directory = disk.directory

theorem Keeps.refl (place : Location) (disk : Disk) : Keeps place disk disk :=
  ⟨.refl _ _ _, rfl⟩

theorem Keeps.trans {next : Disk} (hfirst : Keeps place disk changed)
    (hsecond : Keeps place changed next) : Keeps place disk next :=
  ⟨hfirst.tree.trans hsecond.tree, hsecond.directory.trans hfirst.directory⟩

/-! ### Paths on a disk -/

/-- Where a path starts. -/
def startOf (disk : Disk) (path : String) : Location :=
  if Path.isAbsolute path then [] else disk.directory

theorem locate_eq_ok : disk.locate following path = .ok reached ↔ path ≠ ""
    ∧ disk.tree.Leads following FileTree.linkLimit (disk.startOf path) (segments path) reached := by
  rw [locate, ← FileTree.locateFrom_eq_ok]
  by_cases hempty : path = ""
  · subst hempty
    simp
  · rw [if_neg (by simpa using hempty)]
    exact (and_iff_right hempty).symm

theorem isReachable_of_locate (hproper : disk.IsProper)
    (hlocate : disk.locate following path = .ok reached) :
    disk.tree.IsReachable following.lastLink reached := by
  refine (locate_eq_ok.1 hlocate).2.isReachable ?_ fun segment hsegment =>
    slash_not_mem_segment hsegment
  obtain ⟨entries, hat⟩ := hproper.directory
  exact FileTree.isReachable_linkStart hat (FileTree.proper_of_at? hproper.tree hat).1 _ path

/-- **A path leads to the same place on a disk that is kept**, or to what has been made there. -/
theorem locate_kept (hkeeps : Keeps place disk changed)
    (hlocate : disk.locate following path = .ok reached)
    (hend : following = ⟨true, false⟩ ∨ changed.tree.StandsAt reached) (missing : Bool) :
    changed.locate ⟨true, missing⟩ path = .ok reached := by
  obtain ⟨hempty, hleads⟩ := locate_eq_ok.1 hlocate
  have hstart : changed.startOf path = disk.startOf path := by
    rw [startOf, startOf, hkeeps.directory]
  refine locate_eq_ok.2 ⟨hempty, ?_⟩
  rw [hstart]
  exact hleads.kept hkeeps.tree hend missing

theorem locate_unfollowed (hlocate : disk.locate ⟨true, false⟩ path = .ok reached)
    (missing : Bool) : ∃ found, disk.locate ⟨false, missing⟩ path = .ok found
      ∧ (found = reached ∨ ∃ target, disk.tree.at? found = some (.link target)) := by
  obtain ⟨hempty, hleads⟩ := locate_eq_ok.1 hlocate
  obtain ⟨found, hfound, hat⟩ := hleads.unfollowed missing
  exact ⟨found, locate_eq_ok.2 ⟨hempty, hfound⟩, hat⟩

theorem locate_join {name : String} (hlocate : disk.locate ⟨true, false⟩ path = .ok reached)
    (hat : disk.tree.at? reached = some (.directory entries)) (hname : isEntryName name = true)
    (hstands : disk.tree.StandsAt (reached ++ [name])) :
    disk.locate ⟨true, false⟩ (Path.join path name) = .ok (reached ++ [name]) := by
  obtain ⟨hempty, hleads⟩ := locate_eq_ok.1 hlocate
  obtain ⟨above, hjoin, hwhole⟩ := segments_join hempty hname
  have hstart : disk.startOf (Path.join path name) = disk.startOf path := by
    rw [startOf, startOf, isAbsolute_join hempty hname]
  refine locate_eq_ok.2 ⟨join_ne_empty hempty hname, ?_⟩
  rw [hstart, hjoin]
  rcases hwhole with hwhole | hwhole
  · rw [hwhole] at hleads
    exact hleads.name hat hname hstands
  · rw [hwhole] at hleads
    exact hleads.withoutSlash.name hat hname hstands

theorem find_eq_ok {lastLink : Bool} : disk.find lastLink path = .ok entry
    ↔ ∃ reached, disk.locate ⟨lastLink, false⟩ path = .ok reached
      ∧ disk.tree.at? reached = some entry := by
  rw [find]
  cases disk.locate ⟨lastLink, false⟩ path with
  | error error =>
      refine iff_of_false nofun ?_
      rintro ⟨reached, hlocate, -⟩
      exact absurd hlocate nofun
  | ok found =>
      cases hat : disk.tree.at? found with
      | none => simp [bind, Except.bind, hat]
      | some other => simp [bind, Except.bind, pure, Except.pure, hat]

theorem isDirectory_iff : disk.isDirectory path = true
    ↔ ∃ reached entries, disk.locate ⟨true, false⟩ path = .ok reached
      ∧ disk.tree.at? reached = some (.directory entries) := by
  rw [isDirectory]
  constructor
  · intro hdirectory
    cases hfind : disk.find true path with
    | error error => simp [hfind] at hdirectory
    | ok entry =>
        obtain ⟨reached, hlocate, hat⟩ := find_eq_ok.1 hfind
        rw [hfind] at hdirectory
        cases entry with
        | directory entries => exact ⟨reached, entries, hlocate, hat⟩
        | file text => exact absurd hdirectory Bool.false_ne_true
        | link target => exact absurd hdirectory Bool.false_ne_true
  · rintro ⟨reached, entries, hlocate, hat⟩
    rw [find_eq_ok.2 ⟨reached, hlocate, hat⟩]
    rfl

theorem isDirectory_kept (hkeeps : Keeps place disk changed)
    (hdirectory : disk.isDirectory path = true) : changed.isDirectory path = true := by
  obtain ⟨reached, entries, hlocate, hat⟩ := isDirectory_iff.1 hdirectory
  obtain ⟨others, hothers, -⟩ := hkeeps.tree.directory hat
  exact isDirectory_iff.2 ⟨reached, others, locate_kept hkeeps hlocate (Or.inl rfl) false, hothers⟩

/-! ### Making directories -/

/-- What making directories comes to: the disk is kept, whichever place is looked away from, and stays
proper. -/
structure Extends (disk made : Disk) : Prop where
  keeps : ∀ place, disk.Keeps place made
  proper : made.IsProper

theorem Extends.refl (hproper : disk.IsProper) : disk.Extends disk :=
  ⟨fun place => .refl place disk, hproper⟩

theorem Extends.trans (hfirst : disk.Extends changed) (hsecond : changed.Extends made) :
    disk.Extends made :=
  ⟨fun place => (hfirst.keeps place).trans (hsecond.keeps place), hsecond.proper⟩

/-- A disk with an entry put where it can stand. -/
theorem isProper_put (hproper : disk.IsProper) (hentry : entry.isProper = true)
    (hnamed : ∀ name ∈ reached, isEntryName name = true)
    (hkeeps : disk.tree.Keeps place [] (FileTree.put entry reached disk.tree)) :
    IsProper { disk with tree := FileTree.put entry reached disk.tree } := by
  obtain ⟨entries, hat⟩ := hproper.directory
  obtain ⟨others, hothers, -⟩ := hkeeps.directory hat
  exact ⟨FileTree.isProper_put hproper.tree hentry hnamed, others, hothers⟩

theorem makeDirectory_eq_ok (hmade : disk.makeDirectory path = .ok made) :
    ∃ reached, disk.locate ⟨false, true⟩ path = .ok reached ∧ disk.tree.at? reached = none
      ∧ made = { disk with tree := FileTree.put (.directory []) reached disk.tree } := by
  rw [makeDirectory, makeEntry] at hmade
  cases hlocate : disk.locate ⟨false, true⟩ path with
  | error error => simp [hlocate, bind, Except.bind] at hmade
  | ok reached =>
      cases hat : disk.tree.at? reached with
      | some found => simp [hlocate, hat, bind, Except.bind] at hmade
      | none =>
          simp only [hlocate, hat, bind, Except.bind, pure, Except.pure, Except.ok.injEq] at hmade
          exact ⟨reached, rfl, hat, hmade.symm⟩

/-- A new directory is found by its path, and holds no files. -/
theorem extends_makeDirectory (hproper : disk.IsProper) (hmade : disk.makeDirectory path = .ok made) :
    disk.Extends made ∧ made.isDirectory path = true := by
  obtain ⟨reached, hlocate, hnone, rfl⟩ := makeDirectory_eq_ok hmade
  obtain ⟨hplace, hnamed, -⟩ := isReachable_of_locate hproper hlocate
  have hkeeps (place : Location) : disk.tree.Keeps place []
      (FileTree.put (.directory []) reached disk.tree) :=
    FileTree.keeps_put (fun _ => FileTree.addsNothing_directory _ _) fun old hold =>
      absurd (hnone.symm.trans hold) nofun
  have hmadeKeeps (place : Location) :
      disk.Keeps place { disk with tree := FileTree.put (.directory []) reached disk.tree } :=
    ⟨hkeeps place, rfl⟩
  have hat := FileTree.at?_put hplace (.directory [])
  refine ⟨⟨hmadeKeeps, isProper_put hproper rfl hnamed (hkeeps [])⟩, isDirectory_iff.2 ?_⟩
  exact ⟨reached, [], locate_kept (hmadeKeeps []) hlocate (Or.inr ⟨_, hat, nofun⟩) false, hat⟩

/-- No directory is made where there is one. -/
theorem makeDirectory_again (hdirectory : disk.isDirectory path = true) :
    disk.makeDirectory path = .error .alreadyExists := by
  obtain ⟨reached, entries, hlocate, hat⟩ := isDirectory_iff.1 hdirectory
  obtain ⟨found, hfound, hreached⟩ := locate_unfollowed hlocate true
  have hsome : ∃ entry, disk.tree.at? found = some entry := by
    rcases hreached with rfl | ⟨target, hlink⟩
    · exact ⟨_, hat⟩
    · exact ⟨_, hlink⟩
  obtain ⟨entry, hentry⟩ := hsome
  rw [makeDirectory, makeEntry, hfound]
  simp only [bind, Except.bind, hentry]
  rfl

theorem extends_makeUnlessPresent (hproper : disk.IsProper)
    (hmade : disk.makeUnlessPresent path = .ok made) :
    disk.Extends made ∧ made.isDirectory path = true := by
  rw [makeUnlessPresent] at hmade
  split at hmade
  · next other hother => exact extends_makeDirectory hproper (hother.trans hmade)
  · split at hmade
    · next hdirectory =>
      obtain rfl : disk = made := Except.ok.inj hmade
      exact ⟨.refl hproper, hdirectory⟩
    · exact absurd hmade nofun

theorem makeUnlessPresent_again (hdirectory : disk.isDirectory path = true) :
    disk.makeUnlessPresent path = .ok disk := by
  rw [makeUnlessPresent, makeDirectory_again hdirectory]
  exact if_pos hdirectory

theorem extends_makeNested {paths : List String} (hproper : disk.IsProper)
    (hmade : disk.makeNested paths = .ok made) :
    disk.Extends made ∧ ∀ path ∈ paths.head?, path ≠ "" → made.isDirectory path = true := by
  induction paths generalizing disk made with
  | nil =>
      obtain rfl : disk = made := Except.ok.inj hmade
      exact ⟨.refl hproper, nofun⟩
  | cons path parents ih =>
      rw [makeNested] at hmade
      split at hmade
      · next hempty =>
        obtain rfl : disk = made := Except.ok.inj hmade
        refine ⟨.refl hproper, fun other hother hne => absurd ?_ hne⟩
        rw [← Option.some.inj hother]
        simpa using hempty
      · have hhead {last : Disk} (hfirst : disk.Extends last)
            (hlast : last.makeUnlessPresent path = .ok made) : disk.Extends made
              ∧ ∀ other ∈ (path :: parents).head?, other ≠ "" → made.isDirectory other = true := by
          obtain ⟨hextends, hdirectory⟩ := extends_makeUnlessPresent hfirst.proper hlast
          refine ⟨hfirst.trans hextends, fun other hother _ => ?_⟩
          rwa [← Option.some.inj hother]
        split at hmade
        · cases hparents : disk.makeNested parents with
          | error error => simp [hparents, bind, Except.bind] at hmade
          | ok last =>
              simp only [hparents, bind, Except.bind] at hmade
              exact hhead (ih hproper hparents).1 hmade
        · exact hhead (.refl hproper) hmade

theorem ancestors_head (path : String) : (Path.ancestors path).head? = some path := by
  rw [Path.ancestors]
  cases (segments path).length with
  | zero => rfl
  | succ fuel =>
      rw [Path.ancestorsFrom]
      split <;> rfl

/-- **Directories that are made are there.** -/
theorem extends_makeDirectories (hproper : disk.IsProper) (hpath : path ≠ "")
    (hmade : disk.makeDirectories path = .ok made) :
    disk.Extends made ∧ made.isDirectory path = true := by
  obtain ⟨hextends, hdirectory⟩ := extends_makeNested hproper hmade
  exact ⟨hextends, hdirectory path (ancestors_head path) hpath⟩

/-- **Directories that are there are not made again.** -/
theorem makeDirectories_again (hdirectory : disk.isDirectory path = true) :
    disk.makeDirectories path = .ok disk := by
  obtain ⟨parents, hancestors⟩ := List.head?_eq_some_iff.1 (ancestors_head path)
  rw [makeDirectories, hancestors, makeNested, makeDirectory_again hdirectory,
    makeUnlessPresent_again hdirectory]
  exact ite_self _

/-! ### Writing a file -/

theorem withoutSlash_eq (hslash : Path.endsInSlash path = false) (hpath : path ≠ "") :
    withoutSlash path = path := by
  obtain ⟨last, above, hreverse⟩ := List.exists_cons_of_ne_nil
    (List.reverse_ne_nil_iff.2 (mt String.toList_eq_nil_iff.1 hpath))
  have hlast : (last == '/') = false := by
    rw [Path.endsInSlash, beq_eq_false_iff_ne, List.getLast?_eq_head?_reverse, hreverse] at hslash
    simpa using hslash
  rw [withoutSlash, hreverse, List.dropWhile_cons, hlast]
  simp only [Bool.false_eq_true, if_false]
  rw [← hreverse, List.reverse_reverse, String.ofList_toList]

theorem writeFile_eq_ok (hwritten : disk.writeFile path text = .ok written) :
    path ≠ "" ∧ Path.endsInSlash path = false
      ∧ ∃ reached, disk.locate ⟨true, true⟩ path = .ok reached
        ∧ (∀ entries, disk.tree.at? reached ≠ some (.directory entries))
        ∧ written = { disk with tree := FileTree.put (.file text) reached disk.tree } := by
  rw [writeFile] at hwritten
  by_cases hpath : path = ""
  · subst hpath
    exact absurd hwritten nofun
  · rw [if_neg (by simpa using hpath)] at hwritten
    cases hlocate : disk.locate ⟨true, true⟩ (withoutSlash path) with
    | error error => simp [hlocate, bind, Except.bind] at hwritten
    | ok reached =>
        cases hslash : Path.endsInSlash path with
        | true => simp [hlocate, hslash, bind, Except.bind] at hwritten
        | false =>
            rw [withoutSlash_eq hslash hpath] at hlocate
            refine ⟨hpath, rfl, reached, hlocate, ?_⟩
            simp only [withoutSlash_eq hslash hpath, hlocate, hslash, bind, Except.bind,
              Bool.false_eq_true, if_false] at hwritten
            split at hwritten
            · exact absurd hwritten nofun
            · next hother => exact ⟨hother, (Except.ok.inj hwritten).symm⟩

/-- Writing what a file holds already changes nothing. -/
theorem writeFile_again (hpath : path ≠ "") (hslash : Path.endsInSlash path = false)
    (hlocate : disk.locate ⟨true, true⟩ path = .ok reached)
    (hat : disk.tree.at? reached = some (.file text)) : disk.writeFile path text = .ok disk := by
  rw [writeFile, if_neg (by simpa using hpath), withoutSlash_eq hslash hpath, hlocate]
  simp only [hslash, bind, Except.bind, Bool.false_eq_true, if_false, hat, FileTree.put_self hat]
  rfl

/-- What writing a file comes to: it is found by its path, at a place that was no directory, and the
rest of the disk is kept. -/
structure Writes (disk : Disk) (path : String) (text : Option String) (written : Disk)
    (place : Location) : Prop where
  keeps : disk.Keeps place written
  proper : written.IsProper
  located : written.locate ⟨true, false⟩ path = .ok place
  holds : written.tree.at? place = some (.file text)
  again : written.writeFile path text = .ok written

/-- **A file that is written is found by its path.** -/
theorem writes_writeFile (hproper : disk.IsProper)
    (hwritten : disk.writeFile path text = .ok written) :
    ∃ place, disk.Writes path text written place := by
  obtain ⟨hpath, hslash, reached, hlocate, hnot, rfl⟩ := writeFile_eq_ok hwritten
  obtain ⟨hplace, hnamed, hfollowed⟩ := isReachable_of_locate hproper hlocate
  have hkeeps : disk.tree.Keeps reached [] (FileTree.put (.file text) reached disk.tree) := by
    refine FileTree.keeps_put (fun _ => FileTree.addsNothing_file reached text) fun old hold => ?_
    cases old with
    | directory entries => exact absurd hold (hnot entries)
    | link target => exact absurd hold (hfollowed rfl target)
    | file old => exact FileTree.keeps_file reached old text
  have hat := FileTree.at?_put hplace (.file text)
  have hkept : disk.Keeps reached { disk with tree := FileTree.put (.file text) reached disk.tree } :=
    ⟨hkeeps, rfl⟩
  have hstands := locate_kept hkept hlocate (Or.inr ⟨_, hat, nofun⟩)
  exact ⟨reached, hkept, isProper_put hproper rfl hnamed hkeeps, hstands false, hat,
    writeFile_again hpath hslash (hstands true) hat⟩

end UtilityClasses.FileSystem.Disk
