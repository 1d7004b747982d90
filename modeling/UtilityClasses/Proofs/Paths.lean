import UtilityClasses.FileSystem.Disk

/-!
# The segments of a path

A path is a text, its segments are what stands between its slashes. A name that is joined to a path
becomes its last segment, and the path of a location has the names of the location as segments.
-/

namespace UtilityClasses.FileSystem

variable {separator : Char} {text : List Char} {path directory name : String}
  {location : Location}

/-- What can name an entry of a directory. -/
def isEntryName (name : String) : Bool :=
  !name.isEmpty && name != "." && name != ".." && !name.toList.contains '/'

/-! ### Texts between separators -/

theorem splitAll_ne_nil (separator : Char) (text : List Char) : splitAll separator text ≠ [] := by
  cases text with
  | nil => exact List.cons_ne_nil _ _
  | cons char rest =>
      rw [splitAll]
      split
      · exact List.cons_ne_nil _ _
      · split <;> exact List.cons_ne_nil _ _

theorem splitAll_separator (rest : List Char) :
    splitAll separator (separator :: rest) = [] :: splitAll separator rest := if_pos rfl

theorem splitAll_cons {char : Char} (hchar : char ≠ separator) (rest : List Char) :
    ∃ first others, splitAll separator rest = first :: others
      ∧ splitAll separator (char :: rest) = (char :: first) :: others := by
  obtain ⟨first, others, hrest⟩ := List.exists_cons_of_ne_nil (splitAll_ne_nil separator rest)
  refine ⟨first, others, hrest, ?_⟩
  rw [splitAll, if_neg hchar, hrest]

theorem splitAll_append (separator : Char) (left right : List Char) :
    splitAll separator (left ++ separator :: right)
      = splitAll separator left ++ splitAll separator right := by
  induction left with
  | nil => exact splitAll_separator right
  | cons char left ih =>
      by_cases hchar : char = separator
      · subst hchar
        rw [List.cons_append, splitAll_separator, splitAll_separator, ih, List.cons_append]
      · obtain ⟨first, others, hleft, hcons⟩ := splitAll_cons hchar left
        rw [List.cons_append, splitAll, if_neg hchar, ih, hleft, hcons]
        rfl

theorem splitAll_single (htext : separator ∉ text) : splitAll separator text = [text] := by
  induction text with
  | nil => rfl
  | cons char rest ih =>
      rw [splitAll, if_neg (List.ne_of_not_mem_cons htext).symm,
        ih (List.not_mem_of_not_mem_cons htext)]

theorem not_mem_of_mem_splitAll :
    ∀ piece ∈ splitAll separator text, separator ∉ piece := by
  induction text with
  | nil => simp [splitAll]
  | cons char rest ih =>
      intro piece hpiece
      by_cases hchar : char = separator
      · subst hchar
        rw [splitAll_separator] at hpiece
        rcases List.mem_cons.1 hpiece with rfl | hpiece
        · exact List.not_mem_nil
        · exact ih piece hpiece
      · obtain ⟨first, others, hrest, hcons⟩ := splitAll_cons hchar rest
        rw [hcons] at hpiece
        rw [hrest] at ih
        rcases List.mem_cons.1 hpiece with rfl | hpiece
        · have hfirst := ih first List.mem_cons_self
          simp [hfirst, Ne.symm hchar]
        · exact ih piece (List.mem_cons_of_mem _ hpiece)

/-! ### Segments -/

theorem segments_ne_nil (path : String) : segments path ≠ [] := by
  simpa [segments] using splitAll_ne_nil '/' path.toList

theorem slash_not_mem_segment {segment : String} (hsegment : segment ∈ segments path) :
    '/' ∉ segment.toList := by
  obtain ⟨piece, hpiece, rfl⟩ := List.mem_map.1 hsegment
  rw [String.toList_ofList]
  exact not_mem_of_mem_splitAll piece hpiece

theorem segments_append (left right : String) :
    segments (left ++ "/" ++ right) = segments left ++ segments right := by
  have htext : (left ++ "/" ++ right).toList = left.toList ++ '/' :: right.toList := by simp
  rw [segments, htext, splitAll_append, List.map_append]
  rfl

theorem intercalate_splitAll (separator : Char) (text : List Char) :
    [separator].intercalate (splitAll separator text) = text := by
  induction text with
  | nil => rfl
  | cons char rest ih =>
      by_cases hchar : char = separator
      · subst hchar
        obtain ⟨first, others, hrest⟩ := List.exists_cons_of_ne_nil (splitAll_ne_nil char rest)
        rw [splitAll_separator, hrest, List.intercalate_cons_cons, ← hrest, ih]
        rfl
      · obtain ⟨first, others, hrest, hcons⟩ := splitAll_cons hchar rest
        rw [hrest] at ih
        rw [hcons]
        cases others with
        | nil =>
            rw [List.intercalate_singleton] at ih
            rw [List.intercalate_singleton, ih]
        | cons second others =>
            rw [List.intercalate_cons_cons] at ih
            rw [List.intercalate_cons_cons, List.cons_append, List.cons_append, ih]

/-- **A path is told by its segments.** -/
theorem segments_injective {left right : String} (hsegments : segments left = segments right) :
    left = right := by
  have hpieces : splitAll '/' left.toList = splitAll '/' right.toList :=
    (List.map_inj_right fun _ _ => String.ofList_inj.1).1 hsegments
  have hjoined := congrArg ['/'].intercalate hpieces
  rwa [intercalate_splitAll, intercalate_splitAll, String.toList_inj] at hjoined

theorem segments_empty : segments "" = [""] := rfl

theorem segments_single (hname : '/' ∉ name.toList) : segments name = [name] := by
  rw [segments, splitAll_single hname, List.map_singleton, String.ofList_toList]

theorem isEntryName_iff : isEntryName name = true
    ↔ name ≠ "" ∧ name ≠ "." ∧ name ≠ ".." ∧ '/' ∉ name.toList := by
  simp [isEntryName, and_assoc]

/-- A segment that leads down names an entry. -/
theorem isEntryName_of_segment (hplain : Path.isInsignificant name = false) (hup : name ≠ "..")
    (hslash : '/' ∉ name.toList) : isEntryName name = true := by
  rw [Path.isInsignificant, Bool.or_eq_false_iff, String.isEmpty_eq_false_iff,
    beq_eq_false_iff_ne] at hplain
  exact isEntryName_iff.2 ⟨hplain.1, hplain.2, hup, hslash⟩

theorem isAbsolute_name (hname : isEntryName name = true) : Path.isAbsolute name = false := by
  have hslash := (isEntryName_iff.1 hname).2.2.2
  rw [Path.isAbsolute, beq_eq_false_iff_ne]
  exact fun hhead => hslash (List.mem_of_mem_head? hhead)

theorem endsInSlash_split (hslash : Path.endsInSlash path = true) :
    ∃ above, path = above ++ "/" := by
  rw [Path.endsInSlash, beq_iff_eq, List.getLast?_eq_some_iff] at hslash
  obtain ⟨above, habove⟩ := hslash
  refine ⟨String.ofList above, ?_⟩
  rw [← String.toList_inj, habove]
  simp

/-- A name that is joined to a path comes behind its segments, where a slash at its end adds none. -/
theorem segments_join (hdirectory : directory ≠ "") (hname : isEntryName name = true) :
    ∃ above, segments (Path.join directory name) = above ++ [name]
      ∧ (segments directory = above ∨ segments directory = above ++ [""]) := by
  have hslash := (isEntryName_iff.1 hname).2.2.2
  have hsingle := segments_single hslash
  rw [Path.join, isAbsolute_name hname, String.isEmpty_eq_false_iff.2 hdirectory]
  by_cases hend : Path.endsInSlash directory = true
  · obtain ⟨above, rfl⟩ := endsInSlash_split hend
    refine ⟨segments above, ?_, Or.inr ?_⟩
    · rw [if_pos hend]
      simp only [Bool.or_self, Bool.false_eq_true, if_false, segments_append, hsingle]
    · have hwhole := segments_append above ""
      rwa [String.append_empty] at hwhole
  · refine ⟨segments directory, ?_, Or.inl rfl⟩
    rw [if_neg hend]
    simp only [Bool.or_self, Bool.false_eq_true, if_false, segments_append, hsingle]

theorem join_eq_append (hdirectory : directory ≠ "") (hname : isEntryName name = true) :
    ∃ behind, Path.join directory name = directory ++ behind ∧ behind ≠ "" := by
  have hne := (isEntryName_iff.1 hname).1
  rw [Path.join, isAbsolute_name hname, String.isEmpty_eq_false_iff.2 hdirectory,
    Bool.or_self, if_neg Bool.false_ne_true]
  split
  · exact ⟨name, rfl, hne⟩
  · exact ⟨"/" ++ name, String.append_assoc, by simp⟩

theorem join_ne_empty (hdirectory : directory ≠ "") (hname : isEntryName name = true) :
    Path.join directory name ≠ "" := by
  obtain ⟨behind, hjoin, -⟩ := join_eq_append hdirectory hname
  rw [hjoin]
  simp [hdirectory]

theorem isAbsolute_join (hdirectory : directory ≠ "") (hname : isEntryName name = true) :
    Path.isAbsolute (Path.join directory name) = Path.isAbsolute directory := by
  obtain ⟨behind, hjoin, -⟩ := join_eq_append hdirectory hname
  obtain ⟨first, rest, hfirst⟩ :=
    List.exists_cons_of_ne_nil (mt String.toList_eq_nil_iff.1 hdirectory)
  rw [hjoin, Path.isAbsolute, Path.isAbsolute, String.toList_append, hfirst]
  rfl

/-! ### The name at the end -/

theorem fileName?_of_segments {above : List String}
    (hsegments : segments path = above ++ [name]) (hname : isEntryName name = true) :
    Path.fileName? path = some name := by
  obtain ⟨hempty, hdot, hdots, hslash⟩ := isEntryName_iff.1 hname
  have hlast : Path.laterComponent name = some (.name name) := by
    simp [Path.laterComponent, hempty, hdot, hdots]
  rw [Path.fileName?, Path.components, hsegments]
  cases above with
  | nil =>
      obtain rfl : path = name := segments_injective (hsegments.trans (segments_single hslash).symm)
      have hfirst : Path.firstComponent path path = some (.name path) := by
        rw [Path.firstComponent, isAbsolute_name hname, hlast]
        simp [hdot]
      simp only [List.nil_append, hfirst, Option.toList_some, List.filterMap_nil, List.append_nil,
        List.getLast?_singleton]
  | cons first above =>
      simp only [List.cons_append, List.filterMap_append, List.filterMap_cons, hlast,
        List.filterMap_nil, ← List.append_assoc, List.getLast?_concat]

theorem fileName?_join (hdirectory : directory ≠ "") (hname : isEntryName name = true) :
    Path.fileName? (Path.join directory name) = some name := by
  obtain ⟨above, hjoin, -⟩ := segments_join hdirectory hname
  exact fileName?_of_segments hjoin hname

/-! ### Locations as paths -/

theorem splitAll_intercalate {pieces : List (List Char)} (hne : pieces ≠ [])
    (hpieces : ∀ piece ∈ pieces, separator ∉ piece) :
    splitAll separator ([separator].intercalate pieces) = pieces := by
  induction pieces with
  | nil => exact absurd rfl hne
  | cons first rest ih =>
      have hfirst := splitAll_single (hpieces first List.mem_cons_self)
      cases rest with
      | nil => rwa [List.intercalate_singleton]
      | cons second rest =>
          have hrest := ih (List.cons_ne_nil _ _) fun piece hpiece =>
            hpieces piece (List.mem_cons_of_mem _ hpiece)
          rw [List.intercalate_cons_cons, List.append_assoc, List.singleton_append, splitAll_append,
            hfirst, hrest, List.singleton_append]

theorem segments_intercalate {pieces : List String} (hne : pieces ≠ [])
    (hpieces : ∀ piece ∈ pieces, '/' ∉ piece.toList) :
    segments ("/".intercalate pieces) = pieces := by
  have hslash : ∀ piece ∈ pieces.map String.toList, '/' ∉ piece := by
    simpa using hpieces
  have hsplit := splitAll_intercalate (by simpa using hne) hslash
  have htext : "/".toList = ['/'] := rfl
  rw [segments, String.toList_intercalate, htext, hsplit, List.map_map]
  simp

theorem segments_path (hlocation : ∀ name ∈ location, isEntryName name = true)
    (hne : location ≠ []) : segments location.path = "" :: location := by
  have hslash : ∀ name ∈ location, '/' ∉ name.toList :=
    fun name hname => (isEntryName_iff.1 (hlocation name hname)).2.2.2
  have hroot := segments_append "" ("/".intercalate location)
  rwa [String.empty_append, segments_empty, segments_intercalate hne hslash] at hroot

theorem eq_root_of_path (hlocation : ∀ name ∈ location, isEntryName name = true)
    (hpath : location.path = Location.path []) : location = [] := by
  by_cases hne : location = []
  · exact hne
  · have hsegments := segments_path hlocation hne
    have hroot : segments (Location.path []) = ["", ""] := by decide
    rw [hpath, hroot, List.cons.injEq] at hsegments
    rw [← hsegments.2] at hlocation
    exact absurd (hlocation "" List.mem_cons_self) (by decide)

/-- **Locations are told apart by their paths.** -/
theorem path_injective {left right : Location}
    (hleft : ∀ name ∈ left, isEntryName name = true)
    (hright : ∀ name ∈ right, isEntryName name = true) (hpath : left.path = right.path) :
    left = right := by
  by_cases hleftNil : left = []
  · subst hleftNil
    exact (eq_root_of_path hright hpath.symm).symm
  · by_cases hrightNil : right = []
    · subst hrightNil
      exact eq_root_of_path hleft hpath
    · have hsegments := congrArg segments hpath
      rw [segments_path hleft hleftNil, segments_path hright hrightNil] at hsegments
      exact (List.cons.inj hsegments).2

theorem fileName?_path (hlocation : ∀ name ∈ location, isEntryName name = true)
    (hname : isEntryName name = true) :
    Path.fileName? (Location.path (location ++ [name])) = some name := by
  have hall : ∀ other ∈ location ++ [name], isEntryName other = true :=
    List.forall_mem_append.2 ⟨hlocation, List.forall_mem_singleton.2 hname⟩
  have hsegments : segments (Location.path (location ++ [name])) = ("" :: location) ++ [name] :=
    segments_path hall (by simp)
  exact fileName?_of_segments hsegments hname

end UtilityClasses.FileSystem
