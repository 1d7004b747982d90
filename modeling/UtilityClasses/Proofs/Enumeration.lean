import UtilityClasses.Proofs.Disks

/-!
# Directories listed in another order

The entries of a directory have no order of their own. In two trees that differ only in the order in
which entries are listed, every path leads to the same place, and the same files stand below it.
-/

namespace UtilityClasses.FileSystem

variable {root path : String} {names : Location}

namespace FileTree

variable {tree other entry : FileTree} {entries others : List (String × FileTree)}
  {location base : Location} {name : String} {following : Following} {rest : List String}
  {text : Option String}

/-! ### The files of a directory, entry by entry -/

theorem contentsOfEntries_eq_flatMap (base : Location) (entries : List (String × FileTree)) :
    contentsOfEntries base entries
      = entries.flatMap fun entry => contents (base ++ [entry.1]) entry.2 := by
  induction entries with
  | nil => rfl
  | cons entry rest ih => rw [contentsOfEntries, ih, List.flatMap_cons]

/-- **Every file that can be found is listed.** -/
theorem mem_contents (hat : tree.at? location = some (.file text)) (base : Location) :
    (base ++ location, text) ∈ contents base tree := by
  induction location generalizing tree base with
  | nil =>
      obtain rfl : tree = .file text := Option.some.inj hat
      simp [contents]
  | cons name rest ih =>
      rw [at?_cons, Option.bind_eq_some_iff] at hat
      obtain ⟨child, hchild, hrest⟩ := hat
      obtain ⟨entries, rfl, hlookup⟩ := eq_directory_of_child? hchild
      have hbelow := ih hrest (base ++ [name])
      rw [List.append_assoc, List.singleton_append] at hbelow
      rw [contents, contentsOfEntries_eq_flatMap]
      exact List.mem_flatMap.2 ⟨(name, child), mem_of_lookup hlookup, hbelow⟩

/-- The files that are listed are those that can be found. -/
theorem mem_contents_iff (hproper : tree.isProper = true) :
    (location, text) ∈ contents [] tree ↔ tree.at? location = some (.file text) := by
  constructor
  · intro hmem
    obtain ⟨names, rfl, hat⟩ := at?_of_mem_contents tree hproper hmem
    exact hat
  · exact fun hat => mem_contents hat []

mutual

/-- No file of a proper tree is listed twice. -/
theorem nodup_contents (base : Location) : ∀ tree : FileTree, tree.isProper = true →
    ((contents base tree).map Prod.fst).Nodup
  | file _, _ => by simp [contents]
  | link _, _ => List.nodup_nil
  | directory entries, hproper =>
      nodup_contentsOfEntries base entries (isProper_directory.1 hproper).1
        (isProper_directory.1 hproper).2

theorem nodup_contentsOfEntries (base : Location) : ∀ entries : List (String × FileTree),
    (entries.map Prod.fst).Nodup → areProper entries = true →
      ((contentsOfEntries base entries).map Prod.fst).Nodup
  | [], _, _ => List.nodup_nil
  | (name, entry) :: rest, hnames, hproper => by
      rw [areProper_iff, List.forall_mem_cons, ← areProper_iff] at hproper
      rw [List.map_cons, List.nodup_cons] at hnames
      rw [contentsOfEntries, List.map_append, List.nodup_append]
      refine ⟨nodup_contents (base ++ [name]) entry hproper.1.2,
        nodup_contentsOfEntries base rest hnames.2 hproper.2, ?_⟩
      -- Files below different names have different locations.
      rintro location hfirst _ hothers rfl
      obtain ⟨found, hfound, hlocation⟩ := List.mem_map.1 hfirst
      obtain ⟨other, hother, hsame⟩ := List.mem_map.1 hothers
      obtain ⟨below, hbelow, -⟩ := at?_of_mem_contents entry hproper.1.2 hfound
      obtain ⟨known, child, further, hmem, hfurther, -⟩ :=
        at?_of_mem_contentsOfEntries rest hproper.2 hother
      rw [← hlocation, hbelow, hfurther, List.append_assoc, List.append_cancel_left_eq,
        List.singleton_append, List.cons.injEq] at hsame
      exact hnames.1 (List.mem_map.2 ⟨(known, child), hmem, hsame.1⟩)

end

/-! ### Trees listed in another order -/

/-- The same tree with the entries of its directories listed in any order. -/
inductive Relisted : FileTree → FileTree → Prop where
  | refl (tree : FileTree) : Relisted tree tree
  | listing {entries others : List (String × FileTree)} (hperm : entries.Perm others) :
      Relisted (directory entries) (directory others)
  | inside {before after : List (String × FileTree)} {name : String} {entry other : FileTree}
      (hentry : Relisted entry other) :
      Relisted (directory (before ++ (name, entry) :: after))
        (directory (before ++ (name, other) :: after))
  | trans {tree middle other : FileTree} (hfirst : Relisted tree middle)
      (hsecond : Relisted middle other) : Relisted tree other

theorem Relisted.proper (hrelisted : tree.Relisted other) (hproper : tree.isProper = true) :
    other.isProper = true := by
  induction hrelisted with
  | refl => exact hproper
  | listing hperm =>
      obtain ⟨hnames, hentries⟩ := isProper_directory.1 hproper
      refine isProper_directory.2 ⟨(hperm.map _).nodup_iff.1 hnames, areProper_iff.2 ?_⟩
      exact fun entry hentry => areProper_iff.1 hentries entry (hperm.mem_iff.2 hentry)
  | @inside before after name entry other _ ih =>
      obtain ⟨hnames, hentries⟩ := isProper_directory.1 hproper
      rw [areProper_iff, List.forall_mem_append, List.forall_mem_cons] at hentries
      obtain ⟨hbefore, ⟨hname, hentry⟩, hafter⟩ := hentries
      refine isProper_directory.2 ⟨by simpa using hnames, areProper_iff.2 ?_⟩
      exact List.forall_mem_append.2 ⟨hbefore, List.forall_mem_cons.2 ⟨⟨hname, ih hentry⟩, hafter⟩⟩
  | trans _ _ ihfirst ihsecond => exact ihsecond (ihfirst hproper)

theorem Relisted.symm (hrelisted : tree.Relisted other) : other.Relisted tree := by
  induction hrelisted with
  | refl tree => exact .refl tree
  | listing hperm => exact .listing hperm.symm
  | inside _ ih => exact .inside ih
  | trans _ _ ihfirst ihsecond => exact .trans ihsecond ihfirst

/-- Only directories are listed. -/
theorem Relisted.eq_or_directories (hrelisted : tree.Relisted other) :
    other = tree ∨ ∃ entries others, tree = .directory entries ∧ other = .directory others := by
  induction hrelisted with
  | refl => exact Or.inl rfl
  | listing => exact Or.inr ⟨_, _, rfl, rfl⟩
  | inside => exact Or.inr ⟨_, _, rfl, rfl⟩
  | trans _ _ ihfirst ihsecond =>
      rcases ihfirst with rfl | ⟨entries, middles, rfl, rfl⟩
      · exact ihsecond
      · rcases ihsecond with rfl | ⟨_, others, _, rfl⟩
        · exact Or.inr ⟨entries, middles, rfl, rfl⟩
        · exact Or.inr ⟨entries, others, rfl, rfl⟩

theorem Relisted.eq_of_not_directory (hrelisted : tree.Relisted other)
    (hplain : tree.isDirectory = false) : other = tree := by
  rcases hrelisted.eq_or_directories with heq | ⟨entries, others, rfl, rfl⟩
  · exact heq
  · exact absurd hplain Bool.noConfusion

theorem Relisted.isDirectory_eq (hrelisted : tree.Relisted other) :
    other.isDirectory = tree.isDirectory := by
  rcases hrelisted.eq_or_directories with rfl | ⟨entries, others, rfl, rfl⟩
  · rfl
  · rfl

theorem Relisted.outline_eq (hrelisted : tree.Relisted other) : other.outline = tree.outline := by
  rcases hrelisted.eq_or_directories with rfl | ⟨entries, others, rfl, rfl⟩
  · rfl
  · rfl

/-- The same files are listed, each as often. -/
theorem Relisted.contents_perm (hrelisted : tree.Relisted other) (base : Location) :
    (contents base tree).Perm (contents base other) := by
  induction hrelisted generalizing base with
  | refl => exact .refl _
  | listing hperm =>
      rw [contents, contents, contentsOfEntries_eq_flatMap, contentsOfEntries_eq_flatMap]
      exact hperm.flatMap_right _
  | @inside before after name entry other _ ih =>
      simp only [contents, contentsOfEntries_eq_flatMap, List.flatMap_append, List.flatMap_cons]
      exact ((ih (base ++ [name])).append_right _).append_left _
  | trans _ _ ihfirst ihsecond => exact (ihfirst base).trans (ihsecond base)

theorem Relisted.filesIn_perm (hrelisted : tree.Relisted other) (path : String) :
    (filesIn path tree).Perm (filesIn path other) := by
  have hpaths := filesIn_eq path []
  simp only [List.foldl_nil] at hpaths
  rw [hpaths, hpaths]
  exact (hrelisted.contents_perm []).map _

/-- The files below a link that leads to an entry: those of a directory, and no others. -/
def filesOfDirectory (path : String) (entry : FileTree) : List String :=
  if entry.isDirectory then filesIn path entry else []

theorem Relisted.filesOfDirectory_perm (hrelisted : tree.Relisted other) (path : String) :
    (filesOfDirectory path tree).Perm (filesOfDirectory path other) := by
  rw [filesOfDirectory, filesOfDirectory, hrelisted.isDirectory_eq]
  split
  · exact hrelisted.filesIn_perm path
  · exact .refl _

/-- What stands at a location stands there still, itself listed in another order. -/
theorem Relisted.at? (hrelisted : tree.Relisted other) (hproper : tree.isProper = true)
    (hat : tree.at? location = some entry) :
    ∃ found, other.at? location = some found ∧ entry.Relisted found := by
  induction hrelisted generalizing location entry with
  | refl => exact ⟨entry, hat, .refl _⟩
  | @listing entries others hperm =>
      cases location with
      | nil =>
          obtain rfl : directory entries = entry := Option.some.inj hat
          exact ⟨_, rfl, .listing hperm⟩
      | cons name rest =>
          rw [at?_cons, child?, Option.bind_eq_some_iff] at hat
          obtain ⟨child, hlookup, hrest⟩ := hat
          have hnames := (hperm.map Prod.fst).nodup_iff.1 (isProper_directory.1 hproper).1
          have hmem := hperm.mem_iff.1 (mem_of_lookup hlookup)
          refine ⟨entry, ?_, .refl _⟩
          rw [at?_cons, child?, lookup_of_mem hnames hmem, Option.bind_some, hrest]
  | @inside before after name child other hchild ih =>
      cases location with
      | nil =>
          obtain rfl : directory _ = entry := Option.some.inj hat
          exact ⟨_, rfl, .inside hchild⟩
      | cons known rest =>
          rw [at?_cons, child?, List.lookup_append, lookup_cons_eq] at hat
          rw [at?_cons, child?, List.lookup_append, lookup_cons_eq]
          cases hbefore : before.lookup known with
          | some found =>
              rw [hbefore] at hat
              exact ⟨entry, hat, .refl _⟩
          | none =>
              rw [hbefore, Option.none_or] at hat
              rw [Option.none_or]
              by_cases hknown : known = name
              · rw [if_pos hknown] at hat ⊢
                have hmem : (name, child) ∈ before ++ (name, child) :: after := by simp
                have hproper := areProper_iff.1 (isProper_directory.1 hproper).2 _ hmem
                exact ih hproper.2 hat
              · rw [if_neg hknown] at hat ⊢
                exact ⟨entry, hat, .refl _⟩
  | trans hfirst _ ihfirst ihsecond =>
      obtain ⟨middle, hmiddle, hleft⟩ := ihfirst hproper hat
      obtain ⟨found, hfound, hright⟩ := ihsecond (hfirst.proper hproper) hmiddle
      exact ⟨found, hfound, hleft.trans hright⟩

theorem Relisted.at?_none (hrelisted : tree.Relisted other) (hproper : tree.isProper = true)
    (hnone : tree.at? location = none) : other.at? location = none := by
  rw [Option.eq_none_iff_forall_ne_some]
  intro found hfound
  obtain ⟨entry, hentry, -⟩ := hrelisted.symm.at? (hrelisted.proper hproper) hfound
  exact absurd (hnone.symm.trans hentry) nofun

/-! ### Paths -/

/-- What can be seen of two trees is the same everywhere. -/
def SameOutlines (tree other : FileTree) : Prop :=
  ∀ location, (other.at? location).map outline = (tree.at? location).map outline

theorem Relisted.sameOutlines (hrelisted : tree.Relisted other) (hproper : tree.isProper = true) :
    SameOutlines tree other := by
  intro location
  cases hat : tree.at? location with
  | none => rw [hrelisted.at?_none hproper hat]
  | some entry =>
      obtain ⟨found, hfound, hentry⟩ := hrelisted.at? hproper hat
      rw [hfound, Option.map_some, Option.map_some, hentry.outline_eq]

theorem SameOutlines.found (hsame : SameOutlines tree other)
    (hat : tree.at? location = some entry) :
    ∃ found, other.at? location = some found ∧ found.outline = entry.outline := by
  have hboth := hsame location
  rwa [hat, Option.map_some, Option.map_eq_some_iff] at hboth

theorem SameOutlines.missing (hsame : SameOutlines tree other)
    (hnone : tree.at? location = none) : other.at? location = none := by
  have hboth := hsame location
  rwa [hnone, Option.map_none, Option.map_eq_none_iff] at hboth

theorem SameOutlines.symm (hsame : SameOutlines tree other) : SameOutlines other tree :=
  fun location => (hsame location).symm

theorem SameOutlines.directory (hsame : SameOutlines tree other)
    (hat : tree.at? location = some (FileTree.directory entries)) :
    ∃ others, other.at? location = some (FileTree.directory others) := by
  obtain ⟨found, hfound, houtline⟩ := hsame.found hat
  cases found with
  | directory others => exact ⟨others, hfound⟩
  | file text => exact absurd houtline nofun
  | link target => exact absurd houtline nofun

theorem SameOutlines.link {target : String} (hsame : SameOutlines tree other)
    (hat : tree.at? location = some (FileTree.link target)) :
    other.at? location = some (FileTree.link target) := by
  obtain ⟨found, hfound, houtline⟩ := hsame.found hat
  cases found with
  | link known => rwa [FileTree.link.inj houtline] at hfound
  | file text => exact absurd houtline nofun
  | directory others => exact absurd houtline nofun

/-- A walk does not look into files, nor at the order of entries. -/
theorem walk_sameOutlines (hsame : SameOutlines tree other) :
    other.walk following location rest = tree.walk following location rest := by
  induction rest generalizing location with
  | nil => rfl
  | cons segment rest ih =>
      cases step_of tree location segment with
      | lost hat =>
          have hlost : ∀ others, other.at? location ≠ some (.directory others) := by
            intro others hothers
            obtain ⟨entries, hentries⟩ := hsame.symm.directory hothers
            exact hat entries hentries
          rw [walk_lost hat, walk_lost hlost]
      | stay hat hdot =>
          obtain ⟨others, hothers⟩ := hsame.directory hat
          rw [walk_stay hat hdot, walk_stay hothers hdot, ih]
      | up hat =>
          obtain ⟨others, hothers⟩ := hsame.directory hat
          rw [walk_up hat, walk_up hothers, ih]
      | missing hat hname hup hnone =>
          obtain ⟨others, hothers⟩ := hsame.directory hat
          rw [walk_name hat hname hup, walk_name hothers hname hup, hnone, hsame.missing hnone]
      | link hat hname hup hlink =>
          obtain ⟨others, hothers⟩ := hsame.directory hat
          rw [walk_name hat hname hup, walk_name hothers hname hup, hlink, hsame.link hlink]
      | child hat hname hup hchild hlink =>
          obtain ⟨others, hothers⟩ := hsame.directory hat
          obtain ⟨found, hfound, -⟩ := hsame.found hchild
          have hother : ∀ target, found ≠ .link target := by
            rintro target rfl
            exact hlink target (Option.some.inj (hchild.symm.trans (hsame.symm.link hfound)))
          rw [walk_child hat hname hup hchild hlink, walk_child hothers hname hup hfound hother, ih]

theorem locateFrom_sameOutlines (hsame : SameOutlines tree other) (links : Nat) :
    other.locateFrom following links location rest
      = tree.locateFrom following links location rest := by
  induction links generalizing location rest with
  | zero => rw [locateFrom, locateFrom, walk_sameOutlines hsame]
  | succ links ih =>
      rw [locateFrom, locateFrom, walk_sameOutlines hsame]
      cases tree.walk following location rest with
      | arrived reached => rfl
      | failed error => rfl
      | atLink found target left => exact ih

end FileTree

/-! ### Disks listed in another order -/

namespace Disk

variable {disk other : Disk}

/-- The same disk with its directories listed in any order. -/
structure Relisted (disk other : Disk) : Prop where
  tree : disk.tree.Relisted other.tree
  directory : other.directory = disk.directory

theorem Relisted.locate_eq (hrelisted : disk.Relisted other) (hproper : disk.IsProper)
    (following : Following) (path : String) :
    other.locate following path = disk.locate following path := by
  have hsame := hrelisted.tree.sameOutlines hproper.tree
  rw [locate, locate, hrelisted.directory]
  dsimp only
  rw [FileTree.locateFrom_sameOutlines hsame]

theorem Relisted.canonical?_eq (hrelisted : disk.Relisted other) (hproper : disk.IsProper) :
    other.canonical? = disk.canonical? := by
  funext path
  rw [canonical?, canonical?, hrelisted.locate_eq hproper]

/-- What is found is the same, itself listed in another order, and so is what fails. -/
theorem Relisted.find_cases (hrelisted : disk.Relisted other) (hproper : disk.IsProper)
    (lastLink : Bool) (path : String) :
    (∃ error, disk.find lastLink path = .error error ∧ other.find lastLink path = .error error)
      ∨ ∃ entry found, disk.find lastLink path = .ok entry ∧ other.find lastLink path = .ok found
        ∧ entry.Relisted found := by
  cases hlocate : disk.locate ⟨lastLink, false⟩ path with
  | error error =>
      refine Or.inl ⟨error, ?_, ?_⟩
      · rw [find, hlocate]
        rfl
      · rw [find, hrelisted.locate_eq hproper, hlocate]
        rfl
  | ok reached =>
      have hlocate' := (hrelisted.locate_eq hproper _ _).trans hlocate
      cases hat : disk.tree.at? reached with
      | none =>
          refine Or.inl ⟨.notFound, ?_, ?_⟩
          · simp [find, hlocate, hat, bind, Except.bind]
            rfl
          · simp [find, hlocate', hrelisted.tree.at?_none hproper.tree hat, bind, Except.bind]
            rfl
      | some entry =>
          obtain ⟨found, hfound, hentry⟩ := hrelisted.tree.at? hproper.tree hat
          exact Or.inr ⟨entry, found, find_eq_ok.2 ⟨reached, hlocate, hat⟩,
            find_eq_ok.2 ⟨reached, hlocate', hfound⟩, hentry⟩

/-! ### The files below a path -/

theorem filesBelow_of_error {error : FileError} (hfind : disk.find false path = .error error) :
    disk.filesBelow path = .error error := by
  rw [filesBelow, hfind]
  rfl

theorem filesBelow_of_entry {entry : FileTree} (hfind : disk.find false path = .ok entry)
    (hlink : ∀ target, entry ≠ .link target) : disk.filesBelow path = .ok (entry.filesIn path) := by
  rw [filesBelow, hfind]
  cases entry with
  | link target => exact absurd rfl (hlink target)
  | file text => rfl
  | directory entries => rfl

/-- What a link leads to counts only if it is a directory. -/
theorem filesBelow_of_link {target : String} (hfind : disk.find false path = .ok (.link target)) :
    disk.filesBelow path = (disk.find true path).map (FileTree.filesOfDirectory path) := by
  rw [filesBelow, hfind]
  simp only [bind, Except.bind]
  cases disk.find true path with
  | error error => rfl
  | ok entry => cases entry <;> rfl

/-- **The same paths are found below a path**, in another order. -/
theorem Relisted.filesBelow_cases (hrelisted : disk.Relisted other) (hproper : disk.IsProper)
    (path : String) :
    (∃ error, disk.filesBelow path = .error error ∧ other.filesBelow path = .error error)
      ∨ ∃ found others, disk.filesBelow path = .ok found ∧ other.filesBelow path = .ok others
        ∧ found.Perm others := by
  rcases hrelisted.find_cases hproper false path with
    ⟨error, hfind, hother⟩ | ⟨entry, found, hfind, hother, hentry⟩
  · exact Or.inl ⟨error, filesBelow_of_error hfind, filesBelow_of_error hother⟩
  · by_cases hlink : ∃ target, entry = .link target
    · obtain ⟨target, rfl⟩ := hlink
      obtain rfl : found = .link target := hentry.eq_of_not_directory rfl
      rw [filesBelow_of_link hfind, filesBelow_of_link hother]
      rcases hrelisted.find_cases hproper true path with
        ⟨error, hfollowed, hfollowed'⟩ | ⟨entry, found, hfollowed, hfollowed', hentry⟩
      · rw [hfollowed, hfollowed']
        exact Or.inl ⟨error, rfl, rfl⟩
      · rw [hfollowed, hfollowed']
        refine Or.inr ⟨_, _, rfl, rfl, ?_⟩
        exact hentry.filesOfDirectory_perm path
    · have hplain : ∀ target, entry ≠ .link target := fun target heq => hlink ⟨target, heq⟩
      refine Or.inr ⟨_, _, filesBelow_of_entry hfind hplain, filesBelow_of_entry hother ?_,
        hentry.filesIn_perm path⟩
      rintro target rfl
      exact hplain target (hentry.symm.eq_of_not_directory rfl)

end Disk

end UtilityClasses.FileSystem
