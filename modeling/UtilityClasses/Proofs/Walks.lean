import UtilityClasses.Proofs.FileTrees

/-!
# Where paths lead

A walk goes from location to location, one segment at a time; `Step` says what a segment can lead to.
A path that leads somewhere leads there still when the tree is kept, and a path that is followed up to
a missing name leads there once something is made of that name.
-/

namespace UtilityClasses.FileSystem.FileTree

variable {tree changed entry : FileTree} {entries : List (String × FileTree)}
  {following : Following} {location place reached : Location} {segment target : String}
  {rest : List String} {outcome : Walk}

/-- What a segment leads to from a location. -/
inductive Step (tree : FileTree) (location : Location) : String → Prop where
  | lost {segment : String} (hat : ∀ entries, tree.at? location ≠ some (.directory entries)) :
      Step tree location segment
  | stay {segment : String} {entries : List (String × FileTree)}
      (hat : tree.at? location = some (.directory entries))
      (hdot : Path.isInsignificant segment = true) : Step tree location segment
  | up {entries : List (String × FileTree)} (hat : tree.at? location = some (.directory entries)) :
      Step tree location ".."
  | missing {segment : String} {entries : List (String × FileTree)}
      (hat : tree.at? location = some (.directory entries))
      (hname : Path.isInsignificant segment = false) (hup : segment ≠ "..")
      (hnone : tree.at? (location ++ [segment]) = none) : Step tree location segment
  | link {segment target : String} {entries : List (String × FileTree)}
      (hat : tree.at? location = some (.directory entries))
      (hname : Path.isInsignificant segment = false) (hup : segment ≠ "..")
      (hlink : tree.at? (location ++ [segment]) = some (.link target)) : Step tree location segment
  | child {segment : String} {entries : List (String × FileTree)} {entry : FileTree}
      (hat : tree.at? location = some (.directory entries))
      (hname : Path.isInsignificant segment = false) (hup : segment ≠ "..")
      (hchild : tree.at? (location ++ [segment]) = some entry)
      (hlink : ∀ target, entry ≠ .link target) : Step tree location segment

theorem step_of (tree : FileTree) (location : Location) (segment : String) :
    Step tree location segment := by
  by_cases hdirectory : ∃ entries, tree.at? location = some (.directory entries)
  · obtain ⟨entries, hat⟩ := hdirectory
    by_cases hname : Path.isInsignificant segment = true
    · exact .stay hat hname
    · rw [Bool.not_eq_true] at hname
      by_cases hup : segment = ".."
      · subst hup
        exact .up hat
      · cases hfound : tree.at? (location ++ [segment]) with
        | none => exact .missing hat hname hup hfound
        | some entry =>
            cases entry with
            | link target => exact .link hat hname hup hfound
            | file text => exact .child hat hname hup hfound nofun
            | directory others => exact .child hat hname hup hfound nofun
  · exact .lost fun entries hat => hdirectory ⟨entries, hat⟩

/-! ### One step of a walk -/

theorem walk_lost (hat : ∀ entries, tree.at? location ≠ some (.directory entries)) :
    tree.walk following location (segment :: rest) = .failed .notDirectory := by
  rw [walk]
  split
  · next entries hfound => exact absurd hfound (hat entries)
  · rfl

theorem walk_stay (hat : tree.at? location = some (.directory entries))
    (hdot : Path.isInsignificant segment = true) :
    tree.walk following location (segment :: rest) = tree.walk following location rest := by
  rw [walk, hat]
  exact if_pos hdot

theorem walk_up (hat : tree.at? location = some (.directory entries)) :
    tree.walk following location (".." :: rest) = tree.walk following location.dropLast rest := by
  rw [walk, hat]
  rfl

theorem walk_name (hat : tree.at? location = some (.directory entries))
    (hname : Path.isInsignificant segment = false) (hup : segment ≠ "..") :
    tree.walk following location (segment :: rest)
      = match tree.at? (location ++ [segment]) with
        | none =>
          if rest.isEmpty && following.lastMissing then .arrived (location ++ [segment])
          else .failed .notFound
        | some (link target) =>
          if rest.isEmpty && !following.lastLink then .arrived (location ++ [segment])
          else .atLink location target rest
        | some _ => tree.walk following (location ++ [segment]) rest := by
  have hfound : tree.at? (location ++ [segment]) = entries.lookup segment := by
    rw [at?_concat, hat]
    rfl
  have hwalked : (segment.isEmpty || segment == ".") = false := hname
  rw [walk, hat, hfound]
  dsimp only
  rw [hwalked, if_neg Bool.false_ne_true]
  exact if_neg (by simpa using hup)

/-- A missing name fails a walk, unless it is the last segment and may be missing. -/
theorem walk_missing (following : Following) (rest : List String)
    (hat : tree.at? location = some (.directory entries))
    (hname : Path.isInsignificant segment = false) (hup : segment ≠ "..")
    (hnone : tree.at? (location ++ [segment]) = none) :
    tree.walk following location (segment :: rest) = .failed .notFound
      ∨ (rest = [] ∧ following.lastMissing = true)
        ∧ tree.walk following location (segment :: rest) = .arrived (location ++ [segment]) := by
  rw [walk_name hat hname hup, hnone]
  dsimp only
  split
  · next hlast =>
    rw [Bool.and_eq_true, List.isEmpty_iff] at hlast
    exact Or.inr ⟨hlast, rfl⟩
  · exact Or.inl rfl

theorem walk_child (hat : tree.at? location = some (.directory entries))
    (hname : Path.isInsignificant segment = false) (hup : segment ≠ "..")
    (hchild : tree.at? (location ++ [segment]) = some entry)
    (hlink : ∀ target, entry ≠ .link target) :
    tree.walk following location (segment :: rest)
      = tree.walk following (location ++ [segment]) rest := by
  rw [walk_name hat hname hup, hchild]
  cases entry with
  | link target => exact absurd rfl (hlink target)
  | file text => rfl
  | directory others => rfl

/-- A link is walked through, unless it is the last segment and is not to be followed. -/
theorem walk_link_or (following : Following) (rest : List String)
    (hat : tree.at? location = some (.directory entries))
    (hname : Path.isInsignificant segment = false) (hup : segment ≠ "..")
    (hlink : tree.at? (location ++ [segment]) = some (.link target)) :
    tree.walk following location (segment :: rest) = .atLink location target rest
      ∨ (rest = [] ∧ following.lastLink = false)
        ∧ tree.walk following location (segment :: rest) = .arrived (location ++ [segment]) := by
  rw [walk_name hat hname hup, hlink]
  dsimp only
  split
  · next hlast =>
    rw [Bool.and_eq_true, List.isEmpty_iff, Bool.not_eq_true'] at hlast
    exact Or.inr ⟨hlast, rfl⟩
  · exact Or.inl rfl

theorem walk_link (hat : tree.at? location = some (.directory entries))
    (hname : Path.isInsignificant segment = false) (hup : segment ≠ "..")
    (hlink : tree.at? (location ++ [segment]) = some (.link target))
    (hfollowed : rest = [] → following.lastLink = true) :
    tree.walk following location (segment :: rest) = .atLink location target rest := by
  rcases walk_link_or _ _ hat hname hup hlink with hwalk | ⟨⟨hlast, hstops⟩, -⟩
  · exact hwalk
  · exact absurd (hstops.symm.trans (hfollowed hlast)) Bool.false_ne_true

/-! ### Paths that lead somewhere -/

/-- What stands somewhere and is no link. -/
def StandsAt (tree : FileTree) (location : Location) : Prop :=
  ∃ entry, tree.at? location = some entry ∧ ∀ target, entry ≠ .link target

theorem StandsAt.kept (hstands : tree.StandsAt location) (hkeeps : Keeps place [] tree changed) :
    changed.StandsAt location := by
  obtain ⟨entry, hat, hlink⟩ := hstands
  cases entry with
  | link target => exact absurd rfl (hlink target)
  | file text =>
      obtain ⟨written, hwritten, -⟩ := hkeeps.file hat
      exact ⟨_, hwritten, nofun⟩
  | directory entries =>
      obtain ⟨others, hothers, -⟩ := hkeeps.directory hat
      exact ⟨_, hothers, nofun⟩

/-- **A walk takes the same way in a tree that is kept**, up to what now stands at its end. -/
theorem walk_kept (hkeeps : Keeps place [] tree changed)
    (hwalk : tree.walk following location rest = outcome) (hreached : ∀ error, outcome ≠ .failed error)
    (hend : ∀ reached, outcome = .arrived reached →
      following = ⟨true, false⟩ ∨ changed.StandsAt reached) (missing : Bool) :
    changed.walk ⟨true, missing⟩ location rest = outcome := by
  induction rest generalizing location with
  | nil => exact hwalk
  | cons segment rest ih =>
      cases step_of tree location segment with
      | lost hat =>
          rw [walk_lost hat] at hwalk
          exact absurd hwalk.symm (hreached _)
      | stay hat hdot =>
          obtain ⟨others, hothers, -⟩ := hkeeps.directory hat
          rw [walk_stay hat hdot] at hwalk
          rw [walk_stay hothers hdot]
          exact ih hwalk
      | up hat =>
          obtain ⟨others, hothers, -⟩ := hkeeps.directory hat
          rw [walk_up hat] at hwalk
          rw [walk_up hothers]
          exact ih hwalk
      | missing hat hname hup hnone =>
          obtain ⟨others, hothers, -⟩ := hkeeps.directory hat
          -- Only the last name can be missing, and what now stands there is no link.
          rcases walk_missing following rest hat hname hup hnone with
            hfails | ⟨⟨rfl, hmissing⟩, harrives⟩
          · exact absurd (hwalk.symm.trans hfails) (hreached _)
          · rw [harrives] at hwalk
            rcases hend _ hwalk.symm with hfollowing | ⟨entry, hentry, hlink⟩
            · exact absurd hmissing (by simp [hfollowing])
            · rw [walk_child hothers hname hup hentry hlink]
              exact hwalk
      | link hat hname hup hlink =>
          obtain ⟨others, hothers, -⟩ := hkeeps.directory hat
          -- A link is kept as it is, so no walk that stops at it ends where something else stands.
          rw [walk_link hothers hname hup (hkeeps.link hlink) fun _ => rfl]
          rcases walk_link_or following rest hat hname hup hlink with
            hthrough | ⟨⟨-, hstops⟩, harrives⟩
          · exact hthrough.symm.trans hwalk
          · rw [harrives] at hwalk
            rcases hend _ hwalk.symm with hfollowing | ⟨entry, hentry, hother⟩
            · exact absurd hstops (by simp [hfollowing])
            · rw [hkeeps.link hlink] at hentry
              exact absurd (Option.some.inj hentry).symm (hother _)
      | child hat hname hup hchild hlink =>
          obtain ⟨others, hothers, -⟩ := hkeeps.directory hat
          obtain ⟨other, hother, hlink'⟩ := StandsAt.kept ⟨_, hchild, hlink⟩ hkeeps
          rw [walk_child hat hname hup hchild hlink] at hwalk
          rw [walk_child hothers hname hup hother hlink']
          exact ih hwalk

/-- How a path leads to a location: by walks up to links, and a last one without. -/
inductive Leads (tree : FileTree) (following : Following) :
    Nat → Location → List String → Location → Prop where
  | arrived {links : Nat} {location : Location} {rest : List String} {reached : Location}
      (hwalk : tree.walk following location rest = .arrived reached) :
      Leads tree following links location rest reached
  | link {links : Nat} {location found : Location} {rest left : List String} {target : String}
      {reached : Location} (hwalk : tree.walk following location rest = .atLink found target left)
      (hleads : Leads tree following links (linkStart found target) (segments target ++ left)
        reached) : Leads tree following (links + 1) location rest reached

variable {links : Nat}

theorem locateFrom_eq_ok : tree.locateFrom following links location rest = .ok reached
    ↔ tree.Leads following links location rest reached := by
  constructor
  · intro hlocate
    induction links generalizing location rest with
    | zero =>
        rw [locateFrom] at hlocate
        split at hlocate
        · next found hwalk => exact .arrived (Except.ok.inj hlocate ▸ hwalk)
        · exact absurd hlocate nofun
        · exact absurd hlocate nofun
    | succ links ih =>
        rw [locateFrom] at hlocate
        split at hlocate
        · next found hwalk => exact .arrived (Except.ok.inj hlocate ▸ hwalk)
        · exact absurd hlocate nofun
        · next found target left hwalk => exact .link hwalk (ih hlocate)
  · intro hleads
    induction hleads with
    | @arrived links location rest reached hwalk => cases links <;> rw [locateFrom, hwalk]
    | link hwalk _ ih =>
        rw [locateFrom, hwalk]
        exact ih

/-- **A path leads to the same place in a tree that is kept.** -/
theorem Leads.kept (hleads : tree.Leads following links location rest reached)
    (hkeeps : Keeps place [] tree changed)
    (hend : following = ⟨true, false⟩ ∨ changed.StandsAt reached) (missing : Bool) :
    changed.Leads ⟨true, missing⟩ links location rest reached := by
  induction hleads with
  | arrived hwalk =>
      exact .arrived (walk_kept hkeeps hwalk nofun (fun _ heq => Walk.arrived.inj heq ▸ hend) missing)
  | link hwalk _ ih => exact .link (walk_kept hkeeps hwalk nofun nofun missing) (ih hend)

/-! ### The last link -/

/-- A walk that does not follow a link at its end takes the same way or stops at that link. -/
theorem walk_unfollowed (hwalk : tree.walk ⟨true, false⟩ location rest = outcome)
    (hreached : ∀ error, outcome ≠ .failed error) (missing : Bool) :
    tree.walk ⟨false, missing⟩ location rest = outcome
      ∨ ∃ reached target, tree.walk ⟨false, missing⟩ location rest = .arrived reached
        ∧ tree.at? reached = some (.link target) := by
  induction rest generalizing location with
  | nil => exact Or.inl hwalk
  | cons segment rest ih =>
      cases step_of tree location segment with
      | lost hat =>
          rw [walk_lost hat] at hwalk
          exact absurd hwalk.symm (hreached _)
      | stay hat hdot =>
          rw [walk_stay hat hdot] at hwalk ⊢
          exact ih hwalk
      | up hat =>
          rw [walk_up hat] at hwalk ⊢
          exact ih hwalk
      | missing hat hname hup hnone =>
          rcases walk_missing ⟨true, false⟩ rest hat hname hup hnone with hfails | ⟨⟨-, hmissing⟩, -⟩
          · exact absurd (hwalk.symm.trans hfails) (hreached _)
          · exact absurd hmissing Bool.false_ne_true
      | link hat hname hup hlink =>
          rw [walk_link hat hname hup hlink fun _ => rfl] at hwalk
          rcases walk_link_or ⟨false, missing⟩ rest hat hname hup hlink with hthrough | ⟨-, harrives⟩
          · exact Or.inl (hthrough.trans hwalk)
          · exact Or.inr ⟨_, _, harrives, hlink⟩
      | child hat hname hup hchild hlink =>
          rw [walk_child hat hname hup hchild hlink] at hwalk ⊢
          exact ih hwalk

theorem Leads.unfollowed (hleads : tree.Leads ⟨true, false⟩ links location rest reached)
    (missing : Bool) : ∃ found, tree.Leads ⟨false, missing⟩ links location rest found
      ∧ (found = reached ∨ ∃ target, tree.at? found = some (.link target)) := by
  induction hleads with
  | @arrived links location rest reached hwalk =>
      rcases walk_unfollowed hwalk nofun missing with hwalk | ⟨found, target, hwalk, hat⟩
      · exact ⟨reached, .arrived hwalk, Or.inl rfl⟩
      · exact ⟨found, .arrived hwalk, Or.inr ⟨target, hat⟩⟩
  | link hwalk _ ih =>
      rcases walk_unfollowed hwalk nofun missing with hwalk | ⟨found, target, hwalk, hat⟩
      · obtain ⟨found, hleads, hfound⟩ := ih
        exact ⟨found, .link hwalk hleads, hfound⟩
      · exact ⟨found, .arrived hwalk, Or.inr ⟨target, hat⟩⟩

/-! ### Longer paths -/

/-- A walk along more segments goes on where the walk along the first ones has come to. -/
theorem walk_append {more : List String} (hmore : more ≠ []) :
    tree.walk following location (rest ++ more)
      = match tree.walk ⟨true, false⟩ location rest with
        | .arrived reached => tree.walk following reached more
        | .failed error => .failed error
        | .atLink found target left => .atLink found target (left ++ more) := by
  induction rest generalizing location with
  | nil => rfl
  | cons segment rest ih =>
      have hlonger : rest ++ more ≠ [] := by simp [hmore]
      rw [List.cons_append]
      cases step_of tree location segment with
      | lost hat => rw [walk_lost hat, walk_lost hat]
      | stay hat hdot => rw [walk_stay hat hdot, walk_stay hat hdot, ih]
      | up hat => rw [walk_up hat, walk_up hat, ih]
      | missing hat hname hup hnone =>
          rw [walk_name hat hname hup, walk_name hat hname hup, hnone]
          simp [hmore]
      | link hat hname hup hlink =>
          rw [walk_link hat hname hup hlink fun hnil => absurd hnil hlonger,
            walk_link hat hname hup hlink fun _ => rfl]
      | child hat hname hup hchild hlink =>
          rw [walk_child hat hname hup hchild hlink, walk_child hat hname hup hchild hlink, ih]

theorem locateFrom_congr {start : Location} {more : List String}
    (hwalk : tree.walk following location rest = tree.walk following start more) (links : Nat) :
    tree.locateFrom following links location rest
      = tree.locateFrom following links start more := by
  cases links <;> rw [locateFrom, locateFrom, hwalk]

theorem Leads.append (hleads : tree.Leads ⟨true, false⟩ links location rest reached) :
    ∃ fewer, ∀ following more, more ≠ [] →
      tree.locateFrom following links location (rest ++ more)
        = tree.locateFrom following fewer reached more := by
  induction hleads with
  | @arrived links location rest reached hwalk =>
      refine ⟨links, fun following more hmore => locateFrom_congr ?_ links⟩
      rw [walk_append hmore, hwalk]
  | link hwalk _ ih =>
      obtain ⟨fewer, hfewer⟩ := ih
      refine ⟨fewer, fun following more hmore => ?_⟩
      rw [locateFrom, walk_append hmore, hwalk]
      dsimp only
      rw [← List.append_assoc]
      exact hfewer following more hmore

/-- One more name leads to what stands there, if that is no link. -/
theorem Leads.name (hleads : tree.Leads ⟨true, false⟩ links location rest reached)
    (hat : tree.at? reached = some (.directory entries)) (hname : isEntryName segment = true)
    (hstands : tree.StandsAt (reached ++ [segment])) :
    tree.Leads following links location (rest ++ [segment]) (reached ++ [segment]) := by
  obtain ⟨hempty, hdot, hup, -⟩ := isEntryName_iff.1 hname
  have hplain : Path.isInsignificant segment = false := by
    simp [Path.isInsignificant, hempty, hdot]
  obtain ⟨entry, hentry, hlink⟩ := hstands
  obtain ⟨fewer, hfewer⟩ := hleads.append
  rw [← locateFrom_eq_ok, hfewer _ _ (List.cons_ne_nil _ _), locateFrom_eq_ok]
  exact .arrived (walk_child hat hplain hup hentry hlink)

theorem walk_slash (tree : FileTree) (following : Following) (location : Location) :
    tree.walk following location [""] = .arrived location
      ∨ tree.walk following location [""] = .failed .notDirectory := by
  by_cases hdirectory : ∃ entries, tree.at? location = some (.directory entries)
  · obtain ⟨entries, hat⟩ := hdirectory
    exact Or.inl (walk_stay hat rfl)
  · exact Or.inr (walk_lost fun entries hat => hdirectory ⟨entries, hat⟩)

/-- Without the slash at its end a path leads to the same place. -/
theorem Leads.withoutSlash (hleads : tree.Leads ⟨true, false⟩ links location (rest ++ [""]) reached) :
    tree.Leads ⟨true, false⟩ links location rest reached := by
  generalize hall : rest ++ [""] = all at hleads
  induction hleads generalizing rest with
  | @arrived links location all reached hwalk =>
      subst hall
      rw [walk_append (List.cons_ne_nil _ _)] at hwalk
      split at hwalk
      · next start hstart =>
        rcases walk_slash tree ⟨true, false⟩ start with hslash | hslash
        · obtain rfl : start = reached := Walk.arrived.inj (hslash.symm.trans hwalk)
          exact .arrived hstart
        · exact absurd (hslash.symm.trans hwalk) nofun
      · exact absurd hwalk nofun
      · exact absurd hwalk nofun
  | link hwalk hleads ih =>
      subst hall
      rw [walk_append (List.cons_ne_nil _ _)] at hwalk
      split at hwalk
      · next start _ =>
        rcases walk_slash tree ⟨true, false⟩ start with hslash | hslash
        · exact absurd (hslash.symm.trans hwalk) nofun
        · exact absurd (hslash.symm.trans hwalk) nofun
      · exact absurd hwalk nofun
      · next found target left hstart =>
        obtain ⟨rfl, rfl, rfl⟩ := Walk.atLink.inj hwalk
        exact .link hstart (ih (List.append_assoc _ _ _))

/-! ### Where a path can lead -/

/-- A location that a path can lead to: entries can stand there, and no link that would have been
followed does. -/
structure IsReachable (tree : FileTree) (lastLink : Bool) (location : Location) : Prop where
  hasPlace : tree.HasPlace location
  named : ∀ name ∈ location, isEntryName name = true
  followed : lastLink = true → ∀ target, tree.at? location ≠ some (.link target)

theorem isReachable_of_directory (hat : tree.at? location = some (.directory entries))
    (hnamed : ∀ name ∈ location, isEntryName name = true) (lastLink : Bool) :
    tree.IsReachable lastLink location :=
  ⟨hasPlace_of_at? hat, hnamed, fun _ _ hlink => absurd (hat.symm.trans hlink) nofun⟩

/-- Above a directory there is another one. -/
theorem isReachable_above (hat : tree.at? location = some (.directory entries))
    (hnamed : ∀ name ∈ location, isEntryName name = true) (lastLink : Bool) :
    tree.IsReachable lastLink location.dropLast := by
  have hnamed' : ∀ name ∈ location.dropLast, isEntryName name = true :=
    fun name hname => hnamed name ((List.dropLast_sublist location).subset hname)
  by_cases hroot : location = []
  · subst hroot
    exact isReachable_of_directory hat hnamed' lastLink
  · obtain ⟨others, hothers⟩ := hasPlace_of_at? hat hroot
    exact isReachable_of_directory hothers hnamed' lastLink

/-- The root is reached below any directory, so links that start there are followed on. -/
theorem isReachable_linkStart (hat : tree.at? location = some (.directory entries))
    (hnamed : ∀ name ∈ location, isEntryName name = true) (lastLink : Bool) (target : String) :
    tree.IsReachable lastLink (linkStart location target) := by
  rw [linkStart]
  split
  · cases location with
    | nil => exact isReachable_of_directory hat hnamed lastLink
    | cons name above =>
        rw [at?_cons, Option.bind_eq_some_iff] at hat
        obtain ⟨child, hchild, -⟩ := hat
        obtain ⟨others, rfl, -⟩ := eq_directory_of_child? hchild
        exact isReachable_of_directory rfl (fun _ hname => absurd hname List.not_mem_nil) lastLink
  · exact isReachable_of_directory hat hnamed lastLink

/-- What a walk ends with: a location, or a link in a directory. -/
def EndsWell (tree : FileTree) (lastLink : Bool) : Walk → Prop
  | .arrived reached => tree.IsReachable lastLink reached
  | .failed _ => True
  | .atLink found _ left =>
    (∃ entries, tree.at? found = some (.directory entries))
      ∧ (∀ name ∈ found, isEntryName name = true) ∧ ∀ segment ∈ left, '/' ∉ segment.toList

theorem endsWell_walk (hlocation : tree.IsReachable following.lastLink location)
    (hsegments : ∀ segment ∈ rest, '/' ∉ segment.toList) :
    tree.EndsWell following.lastLink (tree.walk following location rest) := by
  induction rest generalizing location with
  | nil => exact hlocation
  | cons segment rest ih =>
      obtain ⟨hsegment, hrest⟩ := List.forall_mem_cons.1 hsegments
      have hnamed := hlocation.named
      have hname (hplain : Path.isInsignificant segment = false) (hup : segment ≠ "..") :
          ∀ name ∈ location ++ [segment], isEntryName name = true :=
        List.forall_mem_append.2 ⟨hnamed, by
          simpa using isEntryName_of_segment hplain hup hsegment⟩
      cases step_of tree location segment with
      | lost hat =>
          rw [walk_lost hat]
          trivial
      | stay hat hdot =>
          rw [walk_stay hat hdot]
          exact ih hlocation hrest
      | up hat =>
          rw [walk_up hat]
          exact ih (isReachable_above hat hnamed _) hrest
      | missing hat hplain hup hnone =>
          rcases walk_missing following rest hat hplain hup hnone with hfails | ⟨-, harrives⟩
          · rw [hfails]
            trivial
          · rw [harrives]
            exact ⟨hasPlace_concat hat segment, hname hplain hup, fun _ _ hlink =>
              absurd (hnone.symm.trans hlink) nofun⟩
      | link hat hplain hup hlink =>
          rcases walk_link_or following rest hat hplain hup hlink with
            hthrough | ⟨⟨-, hstops⟩, harrives⟩
          · rw [hthrough]
            exact ⟨⟨_, hat⟩, hnamed, hrest⟩
          · rw [harrives]
            exact ⟨hasPlace_concat hat segment, hname hplain hup, fun hfollowed =>
              absurd (hstops.symm.trans hfollowed) Bool.false_ne_true⟩
      | child hat hplain hup hchild hlink =>
          rw [walk_child hat hplain hup hchild hlink]
          refine ih ⟨hasPlace_concat hat segment, hname hplain hup, fun _ target hfound => ?_⟩ hrest
          exact hlink target (Option.some.inj (hchild.symm.trans hfound))

theorem Leads.isReachable (hleads : tree.Leads following links location rest reached)
    (hlocation : tree.IsReachable following.lastLink location)
    (hsegments : ∀ segment ∈ rest, '/' ∉ segment.toList) :
    tree.IsReachable following.lastLink reached := by
  induction hleads with
  | arrived hwalk =>
      have hends := endsWell_walk hlocation hsegments
      rwa [hwalk] at hends
  | link hwalk _ ih =>
      have hends := endsWell_walk hlocation hsegments
      rw [hwalk] at hends
      obtain ⟨⟨entries, hat⟩, hnamed, hleft⟩ := hends
      refine ih (isReachable_linkStart hat hnamed _ _) fun segment hsegment => ?_
      rcases List.mem_append.1 hsegment with hsegment | hsegment
      · exact slash_not_mem_segment hsegment
      · exact hleft segment hsegment

end UtilityClasses.FileSystem.FileTree
