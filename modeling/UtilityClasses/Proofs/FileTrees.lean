import UtilityClasses.Proofs.Entries
import UtilityClasses.Proofs.Paths

/-!
# What stands in a tree of files

A tree is proper when the entries of every directory have names of their own. In such a tree the
files that are listed are those that can be found, and a tree stays proper when entries are put into
it. What stands elsewhere is kept.
-/

namespace UtilityClasses.FileSystem.FileTree

variable {entries : List (String × FileTree)} {name other : String} {entry old child : FileTree}
  {tree changed : FileTree} {location base place : Location}

mutual

/-- Whether the entries of every directory have names that can be entry names, each its own. -/
def isProper : FileTree → Bool
  | directory entries => decide (entries.map Prod.fst).Nodup && areProper entries
  | file _ | link _ => true

def areProper : List (String × FileTree) → Bool
  | [] => true
  | (name, entry) :: rest => isEntryName name && isProper entry && areProper rest

end

/-! ### Entries of a directory -/

theorem areProper_iff : areProper entries = true
    ↔ ∀ entry ∈ entries, isEntryName entry.1 = true ∧ entry.2.isProper = true := by
  induction entries with
  | nil => simp [areProper]
  | cons first rest ih =>
      rw [areProper, Bool.and_eq_true, Bool.and_eq_true, ih, List.forall_mem_cons]

theorem isProper_directory : (directory entries).isProper = true
    ↔ (entries.map Prod.fst).Nodup ∧ areProper entries = true := by
  rw [isProper, Bool.and_eq_true, decide_eq_true_iff]

theorem proper_of_lookup (hproper : areProper entries = true)
    (hlookup : entries.lookup name = some entry) :
    isEntryName name = true ∧ entry.isProper = true :=
  areProper_iff.1 hproper (name, entry) (mem_of_lookup hlookup)

theorem lookup_setEntry (entries : List (String × FileTree)) (name other : String)
    (entry : FileTree) :
    (setEntry entries name entry).lookup other
      = if other = name then some entry else entries.lookup other := by
  induction entries with
  | nil => exact lookup_cons_eq name other entry []
  | cons first rest ih =>
      obtain ⟨known, child⟩ := first
      rw [setEntry]
      by_cases hknown : known = name
      · rw [if_pos hknown, lookup_cons_eq, lookup_cons_eq, hknown]
        split <;> rfl
      · rw [if_neg hknown, lookup_cons_eq, lookup_cons_eq, ih]
        by_cases hother : other = known
        · rw [if_pos hother, if_pos hother, if_neg (hother ▸ hknown)]
        · rw [if_neg hother, if_neg hother]

/-- Putting back what is there changes nothing. -/
theorem setEntry_self (hlookup : entries.lookup name = some entry) :
    setEntry entries name entry = entries := by
  induction entries with
  | nil => exact absurd hlookup nofun
  | cons first rest ih =>
      obtain ⟨known, child⟩ := first
      rw [lookup_cons_eq] at hlookup
      rw [setEntry]
      by_cases hknown : known = name
      · rw [if_pos hknown.symm, Option.some.injEq] at hlookup
        rw [if_pos hknown, hknown, hlookup]
      · rw [if_neg (Ne.symm hknown)] at hlookup
        rw [if_neg hknown, ih hlookup]

theorem mem_names_setEntry {entry : FileTree} :
    other ∈ (setEntry entries name entry).map Prod.fst
      ↔ other = name ∨ other ∈ entries.map Prod.fst := by
  induction entries with
  | nil => simp [setEntry]
  | cons first rest ih =>
      rw [setEntry]
      by_cases hknown : first.1 = name
      · rw [if_pos hknown, List.map_cons, List.map_cons, List.mem_cons, List.mem_cons, hknown,
          or_self_left]
      · rw [if_neg hknown, List.map_cons, List.map_cons, List.mem_cons, List.mem_cons, ih,
          or_left_comm]

theorem nodup_names_setEntry (hnames : (entries.map Prod.fst).Nodup) (name : String)
    (entry : FileTree) : ((setEntry entries name entry).map Prod.fst).Nodup := by
  induction entries with
  | nil => simp [setEntry]
  | cons first rest ih =>
      obtain ⟨known, child⟩ := first
      rw [List.map_cons, List.nodup_cons] at hnames
      rw [setEntry]
      by_cases hknown : known = name
      · rw [if_pos hknown, ← hknown, List.map_cons, List.nodup_cons]
        exact hnames
      · rw [if_neg hknown, List.map_cons, List.nodup_cons, mem_names_setEntry, not_or]
        exact ⟨⟨hknown, hnames.1⟩, ih hnames.2⟩

theorem areProper_setEntry (hproper : areProper entries = true) (hname : isEntryName name = true)
    (hentry : entry.isProper = true) : areProper (setEntry entries name entry) = true := by
  induction entries with
  | nil => exact areProper_iff.2 (by simpa [setEntry] using ⟨hname, hentry⟩)
  | cons first rest ih =>
      rw [areProper_iff, List.forall_mem_cons, ← areProper_iff] at hproper
      rw [setEntry, areProper_iff]
      split
      · exact List.forall_mem_cons.2 ⟨⟨hname, hentry⟩, areProper_iff.1 hproper.2⟩
      · exact List.forall_mem_cons.2 ⟨hproper.1, areProper_iff.1 (ih hproper.2)⟩

/-! ### Locations -/

theorem at?_cons (tree : FileTree) (name : String) (rest : Location) :
    tree.at? (name :: rest) = (tree.child? name).bind (·.at? rest) := by
  rw [at?]
  cases tree.child? name <;> rfl

theorem at?_append (tree : FileTree) (left right : Location) :
    tree.at? (left ++ right) = (tree.at? left).bind (·.at? right) := by
  induction left generalizing tree with
  | nil => rfl
  | cons name left ih =>
      rw [List.cons_append, at?_cons, at?_cons, Option.bind_assoc]
      congr 1
      funext child
      exact ih child

theorem at?_concat (tree : FileTree) (location : Location) (name : String) :
    tree.at? (location ++ [name]) = (tree.at? location).bind (·.child? name) := by
  rw [at?_append]
  congr 1
  funext found
  rw [at?_cons]
  exact Option.bind_fun_some _

theorem proper_of_child? (hproper : tree.isProper = true) (hchild : tree.child? name = some child) :
    isEntryName name = true ∧ child.isProper = true := by
  cases tree with
  | directory entries => exact proper_of_lookup (isProper_directory.1 hproper).2 hchild
  | file text => exact absurd hchild nofun
  | link target => exact absurd hchild nofun

theorem proper_of_at? (hproper : tree.isProper = true) (hat : tree.at? location = some entry) :
    (∀ name ∈ location, isEntryName name = true) ∧ entry.isProper = true := by
  induction location generalizing tree with
  | nil => exact ⟨fun _ hname => absurd hname List.not_mem_nil, Option.some.inj hat ▸ hproper⟩
  | cons name rest ih =>
      rw [at?_cons, Option.bind_eq_some_iff] at hat
      obtain ⟨child, hchild, hrest⟩ := hat
      obtain ⟨hname, hproper⟩ := proper_of_child? hproper hchild
      obtain ⟨hnames, hentry⟩ := ih hproper hrest
      exact ⟨List.forall_mem_cons.2 ⟨hname, hnames⟩, hentry⟩

/-! ### Putting an entry into a tree -/

/-- Where an entry can stand: at the root, or in a directory. -/
def HasPlace (tree : FileTree) (location : Location) : Prop :=
  location ≠ [] → ∃ entries, tree.at? location.dropLast = some (.directory entries)

theorem eq_directory_of_child? (hchild : tree.child? name = some child) :
    ∃ entries, tree = .directory entries ∧ entries.lookup name = some child := by
  cases tree with
  | directory entries => exact ⟨entries, rfl, hchild⟩
  | file text => exact absurd hchild nofun
  | link target => exact absurd hchild nofun

theorem hasPlace_concat (hat : tree.at? location = some (.directory entries)) (name : String) :
    tree.HasPlace (location ++ [name]) := by
  intro _
  rw [List.dropLast_concat]
  exact ⟨entries, hat⟩

theorem hasPlace_of_at? (hat : tree.at? location = some entry) : tree.HasPlace location := by
  intro hne
  rw [← List.dropLast_concat_getLast hne, at?_concat, Option.bind_eq_some_iff] at hat
  obtain ⟨found, hfound, hchild⟩ := hat
  obtain ⟨entries, rfl, -⟩ := eq_directory_of_child? hchild
  exact ⟨entries, hfound⟩

/-- What putting an entry below a name does: it goes into what stands there already, it is a new entry
of the directory, or there is nothing to put it into. -/
theorem put_cases (entry : FileTree) (name : String) (rest : Location) (tree : FileTree) :
    (∃ entries old, tree = .directory entries ∧ entries.lookup name = some old
        ∧ put entry (name :: rest) tree = .directory (setEntry entries name (put entry rest old)))
      ∨ (∃ entries, tree = .directory entries ∧ entries.lookup name = none ∧ rest = []
        ∧ put entry (name :: rest) tree = .directory (setEntry entries name entry))
      ∨ (tree.child? name = none ∧ (rest = [] → tree.isDirectory = false)
        ∧ put entry (name :: rest) tree = tree) := by
  cases tree with
  | file text => exact Or.inr (Or.inr ⟨rfl, fun _ => rfl, by simp [put]⟩)
  | link target => exact Or.inr (Or.inr ⟨rfl, fun _ => rfl, by simp [put]⟩)
  | directory entries =>
      cases hlookup : entries.lookup name with
      | some old => exact Or.inl ⟨entries, old, rfl, hlookup, by simp [put, hlookup]⟩
      | none =>
          cases rest with
          | nil => exact Or.inr (Or.inl ⟨entries, rfl, hlookup, rfl, by simp [put, hlookup]⟩)
          | cons second rest => exact Or.inr (Or.inr ⟨hlookup, nofun, by simp [put, hlookup]⟩)

/-- An entry that is put where it can stand is found there. -/
theorem at?_put (hplace : tree.HasPlace location) (entry : FileTree) :
    (put entry location tree).at? location = some entry := by
  induction location generalizing tree with
  | nil => rw [put, at?]
  | cons name rest ih =>
      obtain ⟨entries, hat⟩ := hplace (List.cons_ne_nil _ _)
      rcases put_cases entry name rest tree with
        ⟨siblings, old, rfl, hlookup, hput⟩ | ⟨siblings, rfl, -, rfl, hput⟩ | ⟨hnone, hroot, -⟩
      · have hbelow : old.HasPlace rest := by
          intro hne
          rw [List.dropLast_cons_of_ne_nil hne, at?_cons, child?, hlookup] at hat
          exact ⟨entries, hat⟩
        rw [hput, at?_cons, child?, lookup_setEntry, if_pos rfl]
        exact ih hbelow
      · rw [hput, at?_cons, child?, lookup_setEntry, if_pos rfl]
        rfl
      · -- The directory that the entry is to stand in would be missing.
        by_cases hrest : rest = []
        · subst hrest
          obtain rfl : tree = .directory entries := Option.some.inj hat
          exact absurd (hroot rfl) Bool.noConfusion
        · rw [List.dropLast_cons_of_ne_nil hrest, at?_cons, hnone] at hat
          exact absurd hat nofun

/-- Putting an entry where it stands already changes nothing. -/
theorem put_self (hat : tree.at? location = some entry) : put entry location tree = tree := by
  induction location generalizing tree with
  | nil => exact (Option.some.inj hat).symm
  | cons name rest ih =>
      rw [at?_cons, Option.bind_eq_some_iff] at hat
      obtain ⟨old, hchild, hrest⟩ := hat
      rcases put_cases entry name rest tree with
        ⟨siblings, other, rfl, hlookup, hput⟩ | ⟨siblings, rfl, hlookup, -, -⟩ | ⟨-, -, hput⟩
      · obtain rfl : other = old := Option.some.inj (hlookup.symm.trans hchild)
        rw [hput, ih hrest, setEntry_self hlookup]
      · exact absurd (hlookup.symm.trans hchild) nofun
      · exact hput

theorem isProper_put (hproper : tree.isProper = true) (hentry : entry.isProper = true)
    (hlocation : ∀ name ∈ location, isEntryName name = true) :
    (put entry location tree).isProper = true := by
  induction location generalizing tree with
  | nil => rwa [put]
  | cons name rest ih =>
      obtain ⟨hname, hrest⟩ := List.forall_mem_cons.1 hlocation
      rcases put_cases entry name rest tree with
        ⟨siblings, old, rfl, hlookup, hput⟩ | ⟨siblings, rfl, -, -, hput⟩ | ⟨-, -, hput⟩
      · obtain ⟨hnames, hsiblings⟩ := isProper_directory.1 hproper
        have hold := ih (proper_of_lookup hsiblings hlookup).2 hrest
        rw [hput, isProper_directory]
        exact ⟨nodup_names_setEntry hnames _ _, areProper_setEntry hsiblings hname hold⟩
      · obtain ⟨hnames, hsiblings⟩ := isProper_directory.1 hproper
        rw [hput, isProper_directory]
        exact ⟨nodup_names_setEntry hnames _ _, areProper_setEntry hsiblings hname hentry⟩
      · rwa [hput]

/-! ### The files of a tree -/

mutual

/-- The files are listed in the same way wherever the tree stands. -/
theorem contents_below (base location : Location) : ∀ tree : FileTree,
    contents (base ++ location) tree
      = (contents location tree).map fun found => (base ++ found.1, found.2)
  | file _ | link _ => rfl
  | directory entries => contentsOfEntries_below base location entries

theorem contentsOfEntries_below (base location : Location) : ∀ entries : List (String × FileTree),
    contentsOfEntries (base ++ location) entries
      = (contentsOfEntries location entries).map fun found => (base ++ found.1, found.2)
  | [] => rfl
  | (name, entry) :: rest => by
      rw [contentsOfEntries, contentsOfEntries, List.map_append, List.append_assoc,
        contents_below base (location ++ [name]) entry, contentsOfEntries_below base location rest]

end

mutual

/-- The paths of the files are the names that lead to them, joined one by one. -/
theorem filesIn_eq (path : String) (location : Location) : ∀ tree : FileTree,
    filesIn (location.foldl Path.join path) tree
      = (contents location tree).map fun found => found.1.foldl Path.join path
  | file _ | link _ => rfl
  | directory entries => filesInEntries_eq path location entries

theorem filesInEntries_eq (path : String) (location : Location) :
    ∀ entries : List (String × FileTree),
      filesInEntries (location.foldl Path.join path) entries
        = (contentsOfEntries location entries).map fun found => found.1.foldl Path.join path
  | [] => rfl
  | (name, entry) :: rest => by
      have hentry := filesIn_eq path (location ++ [name]) entry
      rw [List.foldl_append, List.foldl_cons, List.foldl_nil] at hentry
      rw [filesInEntries, contentsOfEntries, List.map_append, hentry,
        filesInEntries_eq path location rest]

end

mutual

/-- **Every file that is listed is found.** -/
theorem at?_of_mem_contents {base : Location} {found : Location × Option String} :
    ∀ tree : FileTree, tree.isProper = true → found ∈ contents base tree →
      ∃ location, found.1 = base ++ location ∧ tree.at? location = some (.file found.2)
  | file text, _, hfound => by
      obtain rfl : found = (base, text) := List.mem_singleton.1 hfound
      exact ⟨[], (List.append_nil base).symm, rfl⟩
  | link _, _, hfound => absurd hfound List.not_mem_nil
  | directory entries, hproper, hfound => by
      obtain ⟨hnames, hproper⟩ := isProper_directory.1 hproper
      obtain ⟨name, entry, rest, hmem, hlocation, hat⟩ :=
        at?_of_mem_contentsOfEntries entries hproper hfound
      refine ⟨name :: rest, hlocation, ?_⟩
      rw [at?_cons, child?, lookup_of_mem hnames hmem, Option.bind_some, hat]

theorem at?_of_mem_contentsOfEntries {base : Location} {found : Location × Option String} :
    ∀ entries : List (String × FileTree), areProper entries = true →
      found ∈ contentsOfEntries base entries →
        ∃ name entry rest, (name, entry) ∈ entries ∧ found.1 = base ++ name :: rest
          ∧ entry.at? rest = some (.file found.2)
  | [], _, hfound => absurd hfound List.not_mem_nil
  | (name, entry) :: others, hproper, hfound => by
      rw [areProper_iff, List.forall_mem_cons, ← areProper_iff] at hproper
      rcases List.mem_append.1 hfound with hfound | hfound
      · obtain ⟨rest, hlocation, hat⟩ := at?_of_mem_contents entry hproper.1.2 hfound
        refine ⟨name, entry, rest, List.mem_cons_self, ?_, hat⟩
        rw [hlocation, List.append_assoc, List.singleton_append]
      · obtain ⟨known, child, rest, hmem, hfound⟩ :=
          at?_of_mem_contentsOfEntries others hproper.2 hfound
        exact ⟨known, child, rest, List.mem_cons_of_mem _ hmem, hfound⟩

end

theorem filter_contents_setEntry {keep : Location × Option String → Bool}
    (hfiles : (contents (base ++ [name]) entry).filter keep
      = ((entries.lookup name).elim [] (contents (base ++ [name]))).filter keep) :
    (contentsOfEntries base (setEntry entries name entry)).filter keep
      = (contentsOfEntries base entries).filter keep := by
  induction entries with
  | nil =>
      have hsingle : contentsOfEntries base [(name, entry)] = contents (base ++ [name]) entry :=
        List.append_nil _
      rw [setEntry, hsingle, hfiles]
      rfl
  | cons first rest ih =>
      obtain ⟨known, child⟩ := first
      rw [lookup_cons_eq] at hfiles
      rw [setEntry]
      by_cases hknown : known = name
      · subst hknown
        rw [if_pos rfl, Option.elim_some] at hfiles
        rw [if_pos rfl, contentsOfEntries, contentsOfEntries, List.filter_append, hfiles,
          List.filter_append]
      · rw [if_neg (Ne.symm hknown)] at hfiles
        rw [if_neg hknown, contentsOfEntries, contentsOfEntries, List.filter_append, ih hfiles,
          List.filter_append]

/-! ### What is kept when a tree changes at a place -/

/-- An entry without what may be written into it. -/
def outline : FileTree → FileTree
  | file _ => file none
  | link target => link target
  | directory _ => directory []

/-- Two entries that may both stand at a location, alike except for a file at a place. -/
structure Alike (place location : Location) (entry other : FileTree) : Prop where
  outline : other.outline = entry.outline
  files : (contents location other).filter (·.1 ≠ place)
    = (contents location entry).filter (·.1 ≠ place)

/-- Whatever stands in a tree has a like of it in the changed tree. The trees stand at `base`. -/
def Keeps (place base : Location) (tree changed : FileTree) : Prop :=
  ∀ location entry, tree.at? location = some entry →
    ∃ other, changed.at? location = some other ∧ Alike place (base ++ location) entry other

theorem Alike.refl (place location : Location) (entry : FileTree) :
    Alike place location entry entry := ⟨rfl, rfl⟩

theorem Keeps.refl (place base : Location) (tree : FileTree) : Keeps place base tree tree :=
  fun _ entry hat => ⟨entry, hat, .refl _ _ _⟩

theorem Keeps.trans {next : FileTree} (hfirst : Keeps place base tree changed)
    (hsecond : Keeps place base changed next) : Keeps place base tree next := by
  intro location entry hat
  obtain ⟨middle, hmiddle, hleft⟩ := hfirst location entry hat
  obtain ⟨last, hlast, hright⟩ := hsecond location middle hmiddle
  exact ⟨last, hlast, hright.outline.trans hleft.outline, hright.files.trans hleft.files⟩

theorem Keeps.alike (hkeeps : Keeps place base tree changed) : Alike place base tree changed := by
  obtain ⟨other, hother, halike⟩ := hkeeps [] tree rfl
  rw [List.append_nil] at halike
  exact Option.some.inj hother ▸ halike

/-- A new entry that holds no other file than one at the place. -/
def AddsNothing (place location : Location) (entry : FileTree) : Prop :=
  (contents location entry).filter (·.1 ≠ place) = []

theorem addsNothing_directory (place location : Location) :
    AddsNothing place location (.directory []) := rfl

theorem addsNothing_file (place : Location) (text : Option String) :
    AddsNothing place place (.file text) := by
  simp [AddsNothing, contents]

/-- A file at the place may get another text. -/
theorem keeps_file (place : Location) (old text : Option String) :
    Keeps place place (.file old) (.file text) := by
  intro location entry hat
  cases location with
  | nil =>
      obtain rfl : file old = entry := Option.some.inj hat
      refine ⟨.file text, rfl, rfl, ?_⟩
      rw [List.append_nil, addsNothing_file place text]
      exact (addsNothing_file place old).symm
  | cons name rest => exact absurd hat nofun

theorem keeps_setEntry (hnew : entries.lookup name = none → AddsNothing place (base ++ [name]) entry)
    (hold : ∀ old, entries.lookup name = some old → Keeps place (base ++ [name]) old entry) :
    Keeps place base (.directory entries) (.directory (setEntry entries name entry)) := by
  intro location found hat
  cases location with
  | nil =>
      obtain rfl : directory entries = found := Option.some.inj hat
      refine ⟨_, rfl, rfl, filter_contents_setEntry ?_⟩
      rw [List.append_nil]
      cases hlookup : entries.lookup name with
      | none => exact hnew hlookup
      | some old => exact (hold old hlookup).alike.files
  | cons known rest =>
      rw [at?_cons, child?, Option.bind_eq_some_iff] at hat
      obtain ⟨child, hlookup, hat⟩ := hat
      rw [at?_cons, child?, lookup_setEntry]
      by_cases hknown : known = name
      · subst hknown
        obtain ⟨other, hother, halike⟩ := hold child hlookup rest found hat
        rw [List.append_assoc, List.singleton_append] at halike
        rw [if_pos rfl]
        exact ⟨other, hother, halike⟩
      · rw [if_neg hknown, hlookup]
        exact ⟨found, hat, .refl _ _ _⟩

/-- **Putting an entry keeps what stands elsewhere**, if it keeps what it replaces. -/
theorem keeps_put (hnew : tree.at? location = none → AddsNothing place (base ++ location) entry)
    (hold : ∀ old, tree.at? location = some old → Keeps place (base ++ location) old entry) :
    Keeps place base tree (put entry location tree) := by
  induction location generalizing tree base with
  | nil =>
      have hroot := hold tree rfl
      rwa [List.append_nil] at hroot
  | cons name rest ih =>
      rw [List.append_cons] at hnew hold
      rcases put_cases entry name rest tree with
        ⟨siblings, known, rfl, hlookup, hput⟩ | ⟨siblings, rfl, hlookup, rfl, hput⟩ | ⟨-, -, hput⟩
      · rw [at?_cons, child?, hlookup, Option.bind_some] at hnew hold
        rw [hput]
        refine keeps_setEntry (fun hnone => absurd (hnone.symm.trans hlookup) nofun) ?_
        intro old hsome
        obtain rfl : known = old := Option.some.inj (hlookup.symm.trans hsome)
        exact ih hnew hold
      · rw [List.append_nil, at?_cons, child?, hlookup] at hnew
        rw [hput]
        refine keeps_setEntry (fun _ => hnew rfl) ?_
        intro old hsome
        exact absurd (hlookup.symm.trans hsome) nofun
      · rw [hput]
        exact .refl _ _ _

variable {text : Option String} {target : String}

theorem Keeps.directory (hkeeps : Keeps place [] tree changed)
    (hat : tree.at? location = some (.directory entries)) :
    ∃ others, changed.at? location = some (.directory others)
      ∧ (contentsOfEntries location others).filter (·.1 ≠ place)
        = (contentsOfEntries location entries).filter (·.1 ≠ place) := by
  obtain ⟨other, hother, houtline, hfiles⟩ := hkeeps location _ hat
  cases other with
  | directory others => exact ⟨others, hother, hfiles⟩
  | file text => exact absurd houtline nofun
  | link target => exact absurd houtline nofun

theorem Keeps.link (hkeeps : Keeps place [] tree changed)
    (hat : tree.at? location = some (.link target)) :
    changed.at? location = some (.link target) := by
  obtain ⟨other, hother, houtline, -⟩ := hkeeps location _ hat
  cases other with
  | link other => rwa [FileTree.link.inj houtline] at hother
  | file text => exact absurd houtline nofun
  | directory others => exact absurd houtline nofun

theorem Keeps.file (hkeeps : Keeps place [] tree changed)
    (hat : tree.at? location = some (.file text)) :
    ∃ written, changed.at? location = some (.file written)
      ∧ (location ≠ place → written = text) := by
  obtain ⟨other, hother, houtline, hfiles⟩ := hkeeps location _ hat
  cases other with
  | file written =>
      refine ⟨written, hother, fun hplace => ?_⟩
      simpa [contents, hplace] using hfiles
  | link target => exact absurd houtline nofun
  | directory others => exact absurd houtline nofun

end UtilityClasses.FileSystem.FileTree
