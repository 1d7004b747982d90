import UtilityClasses.Extraction
import UtilityClasses.Proofs.Conservative
import UtilityClasses.Proofs.Fields
import UtilityClasses.Proofs.Meaning

/-!
# Class maps with open members

Of a class map only the members are kept whose names are written. What a spread, a key in brackets,
a method or an accessor adds when the map is run is not known, and it may give a written name another
value. So a written class is lost exactly where the last value that is written for it is false and
such a member stands behind it.
-/

namespace UtilityClasses

open Json (Value Fields setField)
open Script

/-! ### Keys that are spelled when the map is run -/

/-- The name that a number is when it is a key: it has an exponent when its point falls more than
five places before the first digit or behind the twenty-first. -/
def Decimal.keyText (value : Double) : String :=
  match value.magnitude with
  | .infinite => sign value ++ "Infinity"
  | magnitude@(.finite ..) =>
    if magnitude.isZero then "0"
    else
      let point := (shortestDigits magnitude).2
      if -6 < point ∧ point ≤ 21 then positional value else scientific value

def Script.Key.spelled : Key → Key
  | .number value => .text (some (Decimal.keyText value))
  | key => key

def Script.Member.spelled : Member → Member
  | .entry key value => .entry key.spelled value
  | .method key => .method key.spelled
  | member => member

/-- A number that is the key of an entry is read as it is spelled. -/
def Script.Member.ReadsNumber : Member → Prop
  | .entry (.number value) _ => Decimal.keyText value = Decimal.positional value
  | _ => True

theorem Script.Key.written?_spelled {key : Key} {value : Expr}
    (hnumber : (Member.entry key value).ReadsNumber) : key.spelled.written? = key.name? := by
  cases key with
  | number => exact congrArg some hnumber
  | _ => rfl

/-! ### Members and what they select -/

/-- Whether the object has the name, with a value that counts as true. -/
def selects (fields : Fields) (name : String) : Bool :=
  (fields.lookup name).any Value.isTruthy

/-- What is kept of a member: the name that is written for it and a value. -/
def Script.Member.field? : Member → Option (String × Value)
  | .entry key value => key.name?.map fun name => (name, reduce value)
  | .shorthand name => some (name, .boolean true)
  | _ => none

/-- When it is run, the member may give the name a value that counts as true. -/
def Script.Member.MaySwitchOn (name : String) : Member → Prop
  | .entry key value => key.Names name ∧ ∃ outcome, value.Yields outcome ∧ outcome.isTruthy = true
  | .shorthand other | .shorthandDefault other _ => other = name
  | .spread _ => True
  | .method key => key.Names name

/-- The name is a key that is written out for a member. -/
def IsWritten (name : String) (members : List Member) : Prop :=
  ∃ member ∈ members, ∃ value, member.field? = some (name, value)

/-- The last value that is written for the name is false, but a member behind it may give the name
one that is true. -/
def IsOverridable (name : String) (members : List Member) : Prop :=
  ∃ before decider after value, members = before ++ decider :: after
    ∧ decider.field? = some (name, value) ∧ value.isTruthy = false
    ∧ ¬IsWritten name after ∧ ∃ member ∈ after, member.spelled.MaySwitchOn name

theorem selects_setField (fields : Fields) (key name : String) (value : Value) :
    selects (setField fields key value) name
      = if name = key then value.isTruthy else selects fields name := by
  rw [selects, lookup_setField]
  split <;> rfl

/-- A field that agrees with what there is changes nothing. -/
theorem selects_setField_of {fields : Fields} {key name : String} {value : Value} {answer : Bool}
    (hfields : selects fields name = answer) (hvalue : name = key → value.isTruthy = answer) :
    selects (setField fields key value) name = answer := by
  rw [selects_setField]
  split
  · next hkey => exact hvalue hkey
  · exact hfields

/-! ### One member -/

/-- A text in brackets whose characters are not known may be any text. -/
theorem Script.Expr.Yields.any_of_text {expr : Expr} {text : String}
    (hopen : expr.spelled? = none) (hyields : expr.Yields (.text text)) (value : Value) :
    expr.Yields value := by
  induction expr using Expr.unwrap.induct with
  | case1 inner ih =>
      cases hyields with
      | group hinner => exact .group (ih hopen hinner)
      | unknown hunknown => simp [Expr.isUnknown] at hunknown
  | case2 wrapper inner ih =>
      cases hyields with
      | typed hinner => exact .typed (ih hopen hinner)
      | unknown hunknown => simp [Expr.isUnknown] at hunknown
  | case3 expr hgroup htyped =>
      cases hyields with
      | text => simp [Expr.spelled?, Expr.unwrap] at hopen
      | template => simp [Expr.spelled?, Expr.unwrap] at hopen
      | group => exact absurd rfl (hgroup _)
      | typed => exact absurd rfl (htyped _ _)
      | unknown hunknown => exact .unknown hunknown value

/-- A key that is not written out may be any name. -/
theorem Script.Key.names_of_open {key : Key} (hopen : key.written? = none) (name : String) :
    key.Names name := by
  cases key with
  | identifier => exact absurd hopen (Option.some_ne_none _)
  | text value =>
      cases value with
      | none => exact .unknown rfl name
      | some => exact absurd hopen (Option.some_ne_none _)
  | number => exact .unknown rfl name
  | bigint => exact .unknown rfl name
  | computed inner =>
      obtain ⟨value, hyields⟩ := inner.exists_yields
      by_cases htext : ∃ text, value = .text text
      · obtain ⟨text, rfl⟩ := htext
        exact .computed (hyields.any_of_text hopen (.text name))
      · exact .converted hyields (not_exists.1 htext) name

/-- A key for which a name is not written may be another one. -/
theorem Script.Key.exists_names_ne {key : Key} {name : String}
    (hwritten : key.written? ≠ some name) : ∃ other, key.Names other ∧ name ≠ other := by
  cases hkey : key.written? with
  | none =>
      refine ⟨name ++ "x", Key.names_of_open hkey _, ?_⟩
      intro heq
      have hlength := congrArg String.length heq
      rw [String.length_append] at hlength
      exact absurd hlength (Nat.ne_of_lt (Nat.lt_add_one _))
  | some other =>
      obtain ⟨found, hnames⟩ := key.exists_names
      obtain rfl := hnames.eq_written hkey
      refine ⟨found, hnames, ?_⟩
      rintro rfl
      exact hwritten hkey

variable {member : Member} {members : List Member} {fields next result : Fields} {name : String}

/-- Only a member that may switch the name on does so. -/
theorem selects_of_adds (hoff : selects fields name = false)
    (hnever : ¬member.MaySwitchOn name) (hadds : member.Adds fields next) :
    selects next name = false := by
  cases hadds with
  | entry hnames hvalue =>
      apply selects_setField_of hoff
      intro hname
      by_contra htruthy
      rw [Bool.not_eq_false] at htruthy
      exact hnever ⟨hname ▸ hnames, _, hvalue, htruthy⟩
  | shorthand => exact selects_setField_of hoff fun hname => absurd hname.symm hnever
  | shorthandDefault => exact selects_setField_of hoff fun hname => absurd hname.symm hnever
  | spread => exact absurd trivial hnever
  | method hnames => exact selects_setField_of hoff fun hname => absurd (hname ▸ hnames) hnever

/-- A member that may switch the name on does so in some run, whatever stands before it. -/
theorem Script.Member.MaySwitchOn.exists_adds (hmay : member.MaySwitchOn name)
    (fields : Fields) : ∃ next, member.Adds fields next ∧ selects next name = true := by
  have hset {value : Value} (htruthy : value.isTruthy = true) :
      selects (setField fields name value) name = true := by
    rw [selects_setField, if_pos rfl, htruthy]
  cases member with
  | entry key value =>
      obtain ⟨hnames, outcome, hyields, htruthy⟩ := hmay
      exact ⟨_, .entry hnames hyields, hset htruthy⟩
  | shorthand other =>
      obtain rfl : other = name := hmay
      exact ⟨_, .shorthand fields other (.boolean true), hset rfl⟩
  | shorthandDefault other value =>
      obtain rfl : other = name := hmay
      exact ⟨_, .shorthandDefault fields other value (.boolean true), hset rfl⟩
  | spread value =>
      exact ⟨_, .spread fields value [(name, .boolean true)], hset rfl⟩
  | method key => exact ⟨_, .method hmay (.boolean true), hset rfl⟩

/-- What is false in the text of a map is false when it is run. -/
theorem selects_of_field?_false {value : Value} (hnumber : member.ReadsNumber)
    (hfield : member.field? = some (name, value)) (hfalse : value.isTruthy = false)
    (hadds : member.spelled.Adds fields next) : selects next name = false := by
  cases member with
  | entry key expr =>
      obtain ⟨written, hname, hpair⟩ := Option.map_eq_some_iff.1 hfield
      obtain ⟨rfl, rfl⟩ := Prod.mk.inj hpair
      rw [← Key.written?_spelled hnumber] at hname
      cases hadds with
      | entry hnames hvalue =>
          obtain rfl := hnames.eq_written hname
          rw [selects_setField, if_pos rfl, Bool.eq_false_iff]
          intro htruthy
          exact Bool.eq_false_iff.1 hfalse (staysTruthy_reduce hvalue htruthy)
  | shorthand other =>
      obtain ⟨-, rfl⟩ := Prod.mk.inj (Option.some.inj hfield)
      exact absurd hfalse nofun
  | _ => exact absurd hfield nofun

/-- A member for which the name is not written leaves it on in some run. -/
theorem exists_adds_keeping (hnumber : member.ReadsNumber)
    (hother : ∀ value, member.field? ≠ some (name, value)) (hon : selects fields name = true) :
    ∃ next, member.spelled.Adds fields next ∧ selects next name = true := by
  cases member with
  | entry key expr =>
      obtain ⟨outcome, hyields⟩ := expr.exists_yields
      have hwritten : key.spelled.written? ≠ some name := by
        intro hwritten
        apply hother (reduce expr)
        rw [Member.field?, ← Key.written?_spelled hnumber, hwritten, Option.map_some]
      obtain ⟨other, hnames, hne⟩ := Key.exists_names_ne hwritten
      exact ⟨_, .entry hnames hyields, selects_setField_of hon fun heq => absurd heq hne⟩
  | shorthand other =>
      have hne : name ≠ other := fun heq => hother (.boolean true) (heq ▸ rfl)
      exact ⟨_, .shorthand fields other .null, selects_setField_of hon fun heq => absurd heq hne⟩
  | shorthandDefault other expr =>
      exact ⟨_, .shorthandDefault fields other expr (.boolean true),
        selects_setField_of hon fun _ => rfl⟩
  | spread expr => exact ⟨_, .spread fields expr [], hon⟩
  | method key =>
      obtain ⟨other, hnames⟩ := key.spelled.exists_names
      exact ⟨_, .method hnames (.boolean true), selects_setField_of hon fun _ => rfl⟩

/-! ### All members -/

theorem runsTo_append {before after : List Member} :
    RunsTo fields (before ++ after) result
      ↔ ∃ middle, RunsTo fields before middle ∧ RunsTo middle after result := by
  induction before generalizing fields with
  | nil =>
      constructor
      · intro hrun
        exact ⟨fields, .nil fields, hrun⟩
      · rintro ⟨middle, hbefore, hafter⟩
        cases hbefore
        exact hafter
  | cons member rest ih =>
      constructor
      · intro hrun
        cases hrun with
        | cons hadds hrest =>
            obtain ⟨middle, hbefore, hafter⟩ := ih.1 hrest
            exact ⟨middle, .cons hadds hbefore, hafter⟩
      · rintro ⟨middle, hbefore, hafter⟩
        cases hbefore with
        | cons hadds hrest => exact .cons hadds (ih.2 ⟨middle, hrest, hafter⟩)

theorem selects_of_runsTo (hoff : selects fields name = false)
    (hnever : ∀ member ∈ members, ¬member.MaySwitchOn name) (hrun : RunsTo fields members result) :
    selects result name = false := by
  induction members generalizing fields with
  | nil =>
      cases hrun
      exact hoff
  | cons member rest ih =>
      rw [List.forall_mem_cons] at hnever
      cases hrun with
      | cons hadds hrest => exact ih (selects_of_adds hoff hnever.1 hadds) hnever.2 hrest

theorem isWritten_cons {rest : List Member} :
    IsWritten name (member :: rest)
      ↔ (∃ value, member.field? = some (name, value)) ∨ IsWritten name rest :=
  List.exists_mem_cons_iff ..

theorem exists_runsTo_keeping (hnumbers : ∀ member ∈ members, member.ReadsNumber)
    (hopen : ¬IsWritten name members) (hon : selects fields name = true) :
    ∃ result, RunsTo fields (members.map Member.spelled) result ∧ selects result name = true := by
  induction members generalizing fields with
  | nil => exact ⟨fields, .nil fields, hon⟩
  | cons member rest ih =>
      rw [isWritten_cons, not_or, not_exists] at hopen
      rw [List.forall_mem_cons] at hnumbers
      obtain ⟨next, hadds, hnext⟩ := exists_adds_keeping hnumbers.1 hopen.1 hon
      obtain ⟨result, hrun, hresult⟩ := ih hnumbers.2 hopen.2 hnext
      exact ⟨result, .cons hadds hrun, hresult⟩

theorem exists_runsTo_switching (hnumbers : ∀ member ∈ members, member.ReadsNumber)
    (hopen : ¬IsWritten name members) (hmay : ∃ member ∈ members, member.spelled.MaySwitchOn name)
    (fields : Fields) :
    ∃ result, RunsTo fields (members.map Member.spelled) result ∧ selects result name = true := by
  induction members generalizing fields with
  | nil =>
      obtain ⟨member, hmem, -⟩ := hmay
      exact absurd hmem List.not_mem_nil
  | cons member rest ih =>
      rw [isWritten_cons, not_or] at hopen
      rw [List.forall_mem_cons] at hnumbers
      rw [List.exists_mem_cons_iff] at hmay
      rcases hmay with hfirst | hrest
      · obtain ⟨next, hadds, hnext⟩ := hfirst.exists_adds fields
        obtain ⟨result, hrun, hresult⟩ := exists_runsTo_keeping hnumbers.2 hopen.2 hnext
        exact ⟨result, .cons hadds hrun, hresult⟩
      · obtain ⟨next, hadds⟩ := member.spelled.exists_adds fields
        obtain ⟨result, hrun, hresult⟩ := ih hnumbers.2 hopen.2 hrest next
        exact ⟨result, .cons hadds hrun, hresult⟩

/-! ### What is kept -/

theorem reduceMember_eq (fields : Fields) (member : Member) :
    reduceMember fields member
      = (member.field?.map fun (name, value) => setField fields name value).getD fields := by
  cases member with
  | entry key value =>
      rw [reduceMember, Member.field?]
      cases key.name? <;> rfl
  | _ => simp [reduceMember, Member.field?]

theorem reduceMembers_append (fields : Fields) (before after : List Member) :
    reduceMembers fields (before ++ after) = reduceMembers (reduceMembers fields before) after := by
  induction before generalizing fields with
  | nil => rw [List.nil_append, reduceMembers]
  | cons member rest ih =>
      rw [List.cons_append, reduceMembers_cons, reduceMembers_cons]
      exact ih _

theorem selects_reduceMembers (hopen : ¬IsWritten name members) (fields : Fields) :
    selects (reduceMembers fields members) name = selects fields name := by
  induction members generalizing fields with
  | nil => rw [reduceMembers]
  | cons member rest ih =>
      rw [isWritten_cons, not_or, not_exists] at hopen
      rw [reduceMembers_cons, ih hopen.2, reduceMember_eq]
      cases hfield : member.field? with
      | none => rfl
      | some field =>
          have hne : name ≠ field.1 := fun heq => hopen.1 field.2 (heq ▸ hfield)
          exact (selects_setField fields field.1 name field.2).trans (if_neg hne)

theorem selects_reduceMembers_last {before after : List Member} {value : Value}
    (hfield : member.field? = some (name, value)) (hopen : ¬IsWritten name after)
    (fields : Fields) :
    selects (reduceMembers fields (before ++ member :: after)) name = value.isTruthy := by
  let known := reduceMembers fields before
  calc selects (reduceMembers fields (before ++ member :: after)) name
      = selects (reduceMembers (reduceMember known member) after) name := by
        rw [reduceMembers_append, reduceMembers_cons]
    _ = selects (reduceMember known member) name := selects_reduceMembers hopen _
    _ = selects (setField known name value) name := by
        rw [reduceMember_eq, hfield, Option.map_some, Option.getD_some]
    _ = value.isTruthy := by rw [selects_setField, if_pos rfl]

theorem IsWritten.exists_last (hwritten : IsWritten name members) :
    ∃ before decider after value, members = before ++ decider :: after
      ∧ decider.field? = some (name, value) ∧ ¬IsWritten name after := by
  induction members with
  | nil =>
      obtain ⟨member, hmem, -⟩ := hwritten
      exact absurd hmem List.not_mem_nil
  | cons member rest ih =>
      by_cases hrest : IsWritten name rest
      · obtain ⟨before, decider, after, value, rfl, hlast⟩ := ih hrest
        exact ⟨member :: before, decider, after, value, rfl, hlast⟩
      · obtain ⟨value, hfield⟩ := (isWritten_cons.1 hwritten).resolve_right hrest
        exact ⟨[], member, rest, value, rfl, hfield, hrest⟩

/-! ### Class maps in a descriptor -/

/-- The value is a style of the loose descriptor, and its classes have the marks. -/
inductive IsStyleOf (style : Value) : String → Value → Prop where
  | state {media bundle : Fields} {breakpoint state : String}
      (hmedia : (breakpoint, .object bundle) ∈ media) (hbreakpoint : breakpoint ∈ breakpointKeys)
      (hbundle : (state, style) ∈ bundle) (hstate : state ∈ stateKeys) :
      IsStyleOf style (keyMark breakpoint ++ keyMark state) (.object media)
  | dark {media bundle : Fields} {breakpoint : String}
      (hmedia : (breakpoint, .object bundle) ∈ media) (hbreakpoint : breakpoint ∈ breakpointKeys)
      (hbundle : ("dark", style) ∈ bundle)
      (hplain : ∀ fields, style = .object fields → ∀ field ∈ fields, field.1 ∉ stateKeys) :
      IsStyleOf style (keyMark breakpoint ++ "dark:") (.object media)
  | darkState {media bundle states : Fields} {breakpoint state : String}
      (hmedia : (breakpoint, .object bundle) ∈ media) (hbreakpoint : breakpoint ∈ breakpointKeys)
      (hbundle : ("dark", .object states) ∈ bundle) (hstates : (state, style) ∈ states)
      (hstate : state ∈ stateKeys) :
      IsStyleOf style (keyMark breakpoint ++ "dark:" ++ keyMark state) (.object media)

theorem mem_meaning_of_bundle {media bundle : Fields} {breakpoint key word : String} {value : Value}
    (hmedia : (breakpoint, .object bundle) ∈ media) (hbreakpoint : breakpoint ∈ breakpointKeys)
    (hbundle : (key, value) ∈ bundle)
    (hword : word ∈ if key = "dark" then darkMeaning (keyMark breakpoint ++ "dark:") value
      else if key ∈ stateKeys then markedWords (keyMark breakpoint ++ keyMark key) value else []) :
    word ∈ meaning (.object media) := by
  have hclasses : word ∈ bundleMeaning (keyMark breakpoint) (.object bundle) :=
    List.mem_flatMap.2 ⟨_, hbundle, hword⟩
  refine List.mem_flatMap.2 ⟨_, hmedia, ?_⟩
  simpa only [if_pos hbreakpoint] using hclasses

/-- The classes of a style, with its marks, are classes of the descriptor. -/
theorem IsStyleOf.markedWords_subset {style descriptor : Value} {marks : String}
    (hstyle : IsStyleOf style marks descriptor) :
    markedWords marks style ⊆ meaning descriptor := by
  intro word hword
  cases hstyle with
  | @state media bundle breakpoint state hmedia hbreakpoint hbundle hstate =>
      apply mem_meaning_of_bundle hmedia hbreakpoint hbundle
      have hdark : state ≠ "dark" := fun heq => absurd (heq ▸ hstate) (by decide)
      rwa [if_neg hdark, if_pos hstate]
  | @dark media bundle breakpoint hmedia hbreakpoint hbundle hplain =>
      apply mem_meaning_of_bundle hmedia hbreakpoint hbundle
      rw [if_pos rfl]
      cases style with
      | object fields =>
          have hnone : ¬∃ field ∈ fields, field.1 ∈ stateKeys := by
            rintro ⟨field, hfield, hstate⟩
            exact hplain fields rfl field hfield hstate
          rwa [darkMeaning, if_neg hnone]
      | _ => exact hword
  | @darkState media bundle states breakpoint state hmedia hbreakpoint hbundle hstates hstate =>
      apply mem_meaning_of_bundle hmedia hbreakpoint hbundle
      have hsome : ∃ field ∈ states, field.1 ∈ stateKeys := ⟨_, hstates, hstate⟩
      rw [if_pos rfl, darkMeaning, if_pos hsome]
      refine List.mem_flatMap.2 ⟨_, hstates, ?_⟩
      simpa only [if_pos hstate] using hword

/-- The words of a name that is on are among the classes of the map. -/
theorem mem_markedWords_of_selects {marks word : String} (hselects : selects fields name = true)
    (hword : word ∈ Text.wordsOf name) : marks ++ word ∈ markedWords marks (.object fields) := by
  obtain ⟨value, hlookup, htruthy⟩ := (Option.any_eq_true _ _).1 hselects
  refine List.mem_map.2 ⟨word, List.mem_flatMap.2 ⟨_, mem_of_lookup hlookup, ?_⟩, rfl⟩
  rw [isTruthy_eq, Bool.not_eq_true'] at htruthy
  simpa only [htruthy, if_neg Bool.false_ne_true] using hword

theorem mem_wordsOf_of_selects {descriptor : Value} {marks word : String}
    (hstyle : IsStyleOf (.object fields) marks descriptor) (hselects : selects fields name = true)
    (hword : word ∈ Text.wordsOf name) :
    marks ++ word ∈ Text.wordsOf (resolveValue descriptor) := by
  rw [wordsOf_resolveValue, tokens_ofValue]
  exact hstyle.markedWords_subset (mem_markedWords_of_selects hselects hword)

/-! ### Written classes -/

/-- A run that switches a name on is seen, unless the name can be overridden. -/
theorem selects_reduceMembers_of_runsTo (hnumbers : ∀ member ∈ members, member.ReadsNumber)
    (hwritten : IsWritten name members) (hkept : ¬IsOverridable name members)
    (hrun : RunsTo [] (members.map Member.spelled) fields) (hon : selects fields name = true) :
    selects (reduceMembers [] members) name = true := by
  obtain ⟨before, decider, after, value, rfl, hfield, hopen⟩ := hwritten.exists_last
  rw [selects_reduceMembers_last hfield hopen]
  by_contra hvalue
  rw [Bool.not_eq_true] at hvalue
  have hnever : ∀ member ∈ after.map Member.spelled, ¬member.MaySwitchOn name := by
    rw [List.forall_mem_map]
    intro member hmember hmay
    exact hkept ⟨before, decider, after, value, rfl, hfield, hvalue, hopen, member, hmember, hmay⟩
  rw [List.map_append, List.map_cons, runsTo_append] at hrun
  obtain ⟨middle, -, hrest⟩ := hrun
  cases hrest with
  | cons hadds hafter =>
      have hdecider := hnumbers decider (List.mem_append_right _ List.mem_cons_self)
      have hoff := selects_of_field?_false hdecider hfield hvalue hadds
      rw [selects_of_runsTo hoff hnever hafter] at hon
      exact Bool.false_ne_true hon

/-- A name that can be overridden is on in some run, and not in what is kept of the map. -/
theorem IsOverridable.exists_runsTo (hnumbers : ∀ member ∈ members, member.ReadsNumber)
    (hoverridable : IsOverridable name members) :
    ∃ fields, RunsTo [] (members.map Member.spelled) fields ∧ selects fields name = true
      ∧ selects (reduceMembers [] members) name = false := by
  obtain ⟨before, decider, after, value, rfl, hfield, hvalue, hopen, hmay⟩ := hoverridable
  obtain ⟨middle, hbefore⟩ := Script.exists_runsTo (before.map Member.spelled) []
  obtain ⟨next, hadds⟩ := decider.spelled.exists_adds middle
  have hafter : ∀ member ∈ after, member.ReadsNumber := fun member hmember =>
    hnumbers member (List.mem_append_right _ (List.mem_cons_of_mem _ hmember))
  obtain ⟨fields, hrest, hon⟩ := exists_runsTo_switching hafter hopen hmay next
  refine ⟨fields, ?_, hon, (selects_reduceMembers_last hfield hopen []).trans hvalue⟩
  rw [List.map_append, List.map_cons]
  exact runsTo_append.2 ⟨middle, hbefore, .cons hadds hrest⟩

/-- **A written class is lost just when it can be overridden.** Unless it is, every word of a name
that is written in a class map and on in some run is emitted wherever the map is a style. If it is,
some run has the name on while the map that is read has it off. -/
theorem written_class_emitted (hnumbers : ∀ member ∈ members, member.ReadsNumber)
    (hwritten : IsWritten name members) :
    (¬IsOverridable name members →
      ∀ fields marks descriptor, RunsTo [] (members.map Member.spelled) fields →
        selects fields name = true → IsStyleOf (reduce (.object members)) marks descriptor →
        ∀ word ∈ Text.wordsOf name, marks ++ word ∈ Text.wordsOf (resolveValue descriptor))
    ∧ (IsOverridable name members →
      ∃ fields, RunsTo [] (members.map Member.spelled) fields ∧ selects fields name = true
        ∧ selects (reduceMembers [] members) name = false) := by
  constructor
  · intro hkept fields marks descriptor hrun hon hstyle word hword
    rw [reduce] at hstyle
    have hselects := selects_reduceMembers_of_runsTo hnumbers hwritten hkept hrun hon
    exact mem_wordsOf_of_selects hstyle hselects hword
  · exact fun hoverridable => hoverridable.exists_runsTo hnumbers

/-- Of `{ ...x, 'a b': y, 2: false, [k]() {}, c }` below `md` and `hover`. -/
theorem written_class_emitted_among_open_members :
    ∃ members fields descriptor, (∀ member ∈ members, member.ReadsNumber) ∧ IsWritten "a b" members
      ∧ ¬IsOverridable "a b" members ∧ RunsTo [] (members.map Member.spelled) fields
      ∧ selects fields "a b" = true
      ∧ IsStyleOf (reduce (.object members)) "md:hover:" descriptor
      ∧ "md:hover:" ++ "b" ∈ Text.wordsOf (resolveValue descriptor) := by
  let two : Decimal.Double := ⟨false, .ofNat 2⟩
  let members : List Member := [.spread (.identifier "x"),
    .entry (.text (some "a b")) (.identifier "y"), .entry (.number two) (.boolean false),
    .method (.computed (.identifier "k")), .shorthand "c"]
  have hnumbers : ∀ member ∈ members, member.ReadsNumber := by
    have htwo : Decimal.keyText two = Decimal.positional two := by decide +kernel
    simp [members, Member.ReadsNumber, htwo]
  have hwritten : IsWritten "a b" members := ⟨_, .tail _ (.head _), _, rfl⟩
  have hkept : ¬IsOverridable "a b" members := by
    rintro ⟨before, decider, after, value, hmembers, hfield, hfalse, -⟩
    have hdecider : decider ∈ members := by
      rw [hmembers]
      exact List.mem_append_right _ List.mem_cons_self
    simp only [members, List.mem_cons, List.not_mem_nil, or_false] at hdecider
    rcases hdecider with rfl | rfl | rfl | rfl | rfl
    · cases hfield
    · cases hfield
      cases hfalse
    · have hname : Decimal.positional two ≠ "a b" := by decide +kernel
      simp [Member.field?, Key.name?, hname] at hfield
    · cases hfield
    · simp [Member.field?] at hfield
  have hopen : (Expr.identifier "k").Yields (.text "k") := .unknown rfl (.text "k")
  have hrun : RunsTo [] (members.map Member.spelled) _ :=
    .cons (.spread [] _ [("z", .null)])
      (.cons (.entry (.text "a b") (.unknown rfl (.text "on")))
        (.cons (.entry (.text (Decimal.keyText two)) (.boolean false))
          (.cons (.method (.computed hopen) .null) (.cons (.shorthand _ "c" .null) (.nil _)))))
  have hstyle : IsStyleOf (reduce (.object members)) ("md:" ++ "hover:")
      (.object [("md", .object [("hover", reduce (.object members))])]) :=
    @IsStyleOf.state _ _ _ "md" "hover" (.head _) (by decide) (.head _) (by decide)
  exact ⟨members, _, _, hnumbers, hwritten, hkept, hrun, by decide +kernel, hstyle,
    (written_class_emitted hnumbers hwritten).1 hkept _ _ _ hrun (by decide +kernel) hstyle "b"
      (by decide +kernel)⟩

/-- The class before a spread is off in what is read, and on when the spread has it. -/
theorem spread_hides_written_class :
    resolveCall "tc" "tc(\x7bbase:\x7bstatic:\x7bhidden:false,...x\x7d\x7d\x7d)" = .ok ""
      ∧ ∃ members fields descriptor, (∀ member ∈ members, member.ReadsNumber)
        ∧ IsWritten "hidden" members
        ∧ RunsTo [] (members.map Member.spelled) fields ∧ selects fields "hidden" = true
        ∧ IsStyleOf (reduce (.object members)) ("" ++ "") descriptor
        ∧ Text.wordsOf "hidden" = ["hidden"]
        ∧ Text.wordsOf (resolveValue descriptor) = [] := by
  let members : List Member :=
    [.entry (.identifier "hidden") (.boolean false), .spread (.identifier "x")]
  have hrun : RunsTo [] (members.map Member.spelled) [("hidden", .boolean true)] :=
    .cons (.entry (.identifier "hidden") (.boolean false))
      (.cons (.spread _ _ [("hidden", .boolean true)]) (.nil _))
  have hstyle : IsStyleOf (reduce (.object members)) ("" ++ "")
      (.object [("base", .object [("static", reduce (.object members))])]) :=
    @IsStyleOf.state _ _ _ "base" "static" (.head _) (by decide) (.head _) (by decide)
  refine ⟨by decide +kernel, members, _, _, ?_, ⟨_, .head _, _, rfl⟩, hrun, ?_, hstyle, ?_, ?_⟩
  · simp [Member.ReadsNumber, members]
  · decide +kernel
  · decide +kernel
  · decide +kernel

end UtilityClasses
