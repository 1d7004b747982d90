import Mathlib.Data.List.Basic
import Mathlib.Data.List.Nodup
import UtilityClasses.Proofs.Coverage
import UtilityClasses.Proofs.Fields

/-!
# Descriptors written as objects

A descriptor is written as the object that it denotes, with the keys of its breakpoints, states and
dark slots. The object no longer says what is a style and what holds the styles of states, so that
is told from the keys when it is read; the classes are those of the descriptor all the same.
-/

namespace UtilityClasses

open Json (Value Fields)
open Script (assignAll)

/-! ### The object of a descriptor -/

/-- The object that has the given fields set one by one. -/
def Json.Value.ofFields (fields : Fields) : Value := .object (assignAll [] fields)

def Style.toValue : Style → Value
  | .classes text => .text text
  | .conditional entries => .ofFields (entries.map fun (key, enabled) => (key, .boolean enabled))

def Dark.toValue : Dark → Value
  | .style direct => direct.toValue
  | .states styles =>
    .ofFields (styles.map fun (condition, direct) => (condition.key, direct.toValue))

def Variant.toField : Variant → String × Value
  | .state condition style => (condition.key, style.toValue)
  | .dark styles => (darkKey, styles.toValue)

def MediaStyles.toValue (styles : MediaStyles) : Value :=
  .ofFields (styles.variants.map Variant.toField)

def Descriptor.toValue (descriptor : Descriptor) : Value :=
  .ofFields (descriptor.media.map fun (breakpoint, styles) => (breakpoint.key, styles.toValue))

/-! ### Descriptors that an object can hold

No key may be repeated, and a style in the dark slot may not have the key of a state. -/

def Style.IsWritable : Style → Prop
  | .classes _ => True
  | .conditional entries => (entries.map Prod.fst).Nodup

def Style.NamesNoState : Style → Prop
  | .classes _ => True
  | .conditional entries => ∀ entry ∈ entries, State.ofKey? entry.1 = none

def Dark.IsWritable : Dark → Prop
  | .style direct => direct.IsWritable ∧ direct.NamesNoState
  | .states styles => (styles.map Prod.fst).Nodup ∧ ∀ entry ∈ styles, entry.2.IsWritable

def Variant.IsWritable : Variant → Prop
  | .state _ style => style.IsWritable
  | .dark styles => styles.IsWritable

/-- The place of a variant in its bundle: that of a state, or the dark slot. -/
def Variant.slot : Variant → Option State
  | .state condition _ => some condition
  | .dark _ => none

structure MediaStyles.IsWritable (styles : MediaStyles) : Prop where
  slots : (styles.variants.map Variant.slot).Nodup
  variants : ∀ variant ∈ styles.variants, variant.IsWritable

structure Descriptor.IsWritable (descriptor : Descriptor) : Prop where
  breakpoints : (descriptor.media.map Prod.fst).Nodup
  media : ∀ entry ∈ descriptor.media, entry.2.IsWritable

instance : DecidablePred Style.IsWritable
  | .classes _ => .isTrue trivial
  | .conditional entries => inferInstanceAs (Decidable (entries.map Prod.fst).Nodup)

instance : DecidablePred Style.NamesNoState
  | .classes _ => .isTrue trivial
  | .conditional entries =>
    inferInstanceAs (Decidable (∀ entry ∈ entries, State.ofKey? entry.1 = none))

instance : DecidablePred Dark.IsWritable
  | .style direct => inferInstanceAs (Decidable (direct.IsWritable ∧ direct.NamesNoState))
  | .states styles =>
    inferInstanceAs (Decidable
      ((styles.map Prod.fst).Nodup ∧ ∀ entry ∈ styles, entry.2.IsWritable))

instance : DecidablePred Variant.IsWritable
  | .state _ style => inferInstanceAs (Decidable style.IsWritable)
  | .dark styles => inferInstanceAs (Decidable styles.IsWritable)

instance : DecidablePred MediaStyles.IsWritable := fun _ =>
  decidable_of_iff (_ ∧ _) ⟨fun ⟨slots, variants⟩ => ⟨slots, variants⟩,
    fun ⟨slots, variants⟩ => ⟨slots, variants⟩⟩

instance : DecidablePred Descriptor.IsWritable := fun _ =>
  decidable_of_iff (_ ∧ _) ⟨fun ⟨breakpoints, media⟩ => ⟨breakpoints, media⟩,
    fun ⟨breakpoints, media⟩ => ⟨breakpoints, media⟩⟩

/-! ### Keys -/

theorem Breakpoint.ofKey?_key (breakpoint : Breakpoint) :
    Breakpoint.ofKey? breakpoint.key = some breakpoint := by
  cases breakpoint <;> decide

theorem State.ofKey?_key (state : State) : State.ofKey? state.key = some state := by
  cases state <;> decide

theorem State.ofKey?_darkKey : State.ofKey? darkKey = none := by
  decide

theorem State.key_ne_darkKey (state : State) : state.key ≠ darkKey := by
  intro heq
  have hstate := state.ofKey?_key
  rw [heq, State.ofKey?_darkKey] at hstate
  exact absurd hstate nofun

theorem Breakpoint.key_injective : Function.Injective Breakpoint.key := by
  intro left right heq
  have hleft := left.ofKey?_key
  rw [heq, right.ofKey?_key] at hleft
  exact (Option.some.inj hleft).symm

theorem State.key_injective : Function.Injective State.key := by
  intro left right heq
  have hleft := left.ofKey?_key
  rw [heq, right.ofKey?_key] at hleft
  exact (Option.some.inj hleft).symm

def slotKey : Option State → String
  | some state => state.key
  | none => darkKey

theorem slotKey_injective : Function.Injective slotKey := by
  intro left right heq
  cases left with
  | none =>
      cases right with
      | none => rfl
      | some state => exact absurd heq.symm state.key_ne_darkKey
  | some state =>
      cases right with
      | none => exact absurd heq state.key_ne_darkKey
      | some other => rw [State.key_injective heq]

/-- Different names have different keys. -/
theorem nodup_keys {Name Entry : Type} {key : Name → String} (hkey : Function.Injective key)
    (value : Entry → Value) {entries : List (Name × Entry)}
    (hentries : (entries.map Prod.fst).Nodup) :
    ((entries.map fun (name, entry) => (key name, value entry)).map Prod.fst).Nodup := by
  have hkeys := hentries.map hkey
  rw [List.map_map] at hkeys ⊢
  exact hkeys

/-- Fields whose keys are all different make the object of these fields. -/
theorem ofFields_eq {fields : Fields} (hkeys : (fields.map Prod.fst).Nodup) :
    Value.ofFields fields = .object fields := by
  rw [Value.ofFields, assignAll_new (by rwa [List.nil_append]), List.nil_append]

/-! ### Reading the object back -/

theorem Style.toValue_conditional {entries : List (String × Bool)}
    (hkeys : (entries.map Prod.fst).Nodup) :
    (Style.conditional entries).toValue
      = .object (entries.map fun (key, enabled) => (key, .boolean enabled)) := by
  exact ofFields_eq (nodup_keys Function.injective_id Value.boolean hkeys)

theorem Style.ofValue?_toValue {style : Style} (hstyle : style.IsWritable) :
    Style.ofValue? style.toValue = some style := by
  cases style with
  | classes text => rfl
  | conditional entries =>
      have hentries : (entries.map fun entry => (entry.1, Value.boolean entry.2)).map
          (fun field => (field.1, field.2.isTruthy)) = entries := by
        rw [List.map_map]
        exact List.map_id entries
      rw [Style.toValue_conditional hstyle, Style.ofValue?, hentries]

theorem styleTokens_toValue {style : Style} (hstyle : style.IsWritable) (marks : String) :
    styleTokens marks style.toValue = style.marked marks := by
  rw [styleTokens, Style.ofValue?_toValue hstyle]
  rfl

/-- In the dark slot the keys tell what is meant. No styles of states at all look like an empty
style, which selects as little. -/
theorem darkTokens_toValue {dark : Dark} (hdark : dark.IsWritable) (breakpoint : Breakpoint) :
    darkTokens breakpoint dark.toValue = (Variant.dark dark).tokens breakpoint := by
  cases dark with
  | style style =>
      have htokens := styleTokens_toValue hdark.1 (breakpoint.mark ++ darkMark)
      cases style with
      | classes text => exact htokens
      | conditional entries =>
          rw [Style.toValue_conditional hdark.1] at htokens
          have hnames : namesState (entries.map fun (key, enabled) => (key, .boolean enabled))
              = false := by
            rw [namesState, List.any_map, List.any_eq_false]
            intro entry hentry
            simp [hdark.2 entry hentry]
          rw [Dark.toValue, Style.toValue_conditional hdark.1, darkTokens_object, hnames,
            if_neg Bool.false_ne_true, htokens]
          rfl
  | states styles =>
      have hkeys := nodup_keys State.key_injective Style.toValue hdark.1
      rw [Dark.toValue, ofFields_eq hkeys, darkTokens_object]
      cases styles with
      | nil => rfl
      | cons first rest =>
          have hnames : namesState ((first :: rest).map fun (state, style) =>
              (state.key, style.toValue)) = true := by
            simp [namesState, State.ofKey?_key]
          rw [hnames, if_pos rfl, List.flatMap_map, Variant.tokens]
          apply List.flatMap_congr
          intro entry hentry
          simp only [State.ofKey?_key, Option.map_some, Option.getD_some]
          exact styleTokens_toValue (hdark.2 entry hentry) _

theorem bundleTokens_toValue {styles : MediaStyles} (hstyles : styles.IsWritable)
    (breakpoint : Breakpoint) :
    bundleTokens breakpoint styles.toValue
      = styles.variants.flatMap (Variant.tokens breakpoint) := by
  have hslot (variant : Variant) : variant.toField.1 = slotKey variant.slot := by
    cases variant <;> rfl
  have hkeys : ((styles.variants.map Variant.toField).map Prod.fst).Nodup := by
    have hmap := hstyles.slots.map slotKey_injective
    rw [List.map_map] at hmap ⊢
    simpa only [Function.comp_def, hslot] using hmap
  rw [MediaStyles.toValue, ofFields_eq hkeys, bundleTokens_object, List.flatMap_map]
  apply List.flatMap_congr
  intro variant hvariant
  have hwritable := hstyles.variants variant hvariant
  cases variant with
  | state state style =>
      simp only [Variant.toField, if_neg state.key_ne_darkKey, State.ofKey?_key, Option.map_some,
        Option.getD_some]
      exact styleTokens_toValue hwritable _
  | dark dark =>
      simp only [Variant.toField, if_true]
      exact darkTokens_toValue hwritable breakpoint

theorem tokens_toValue {descriptor : Descriptor} (hdescriptor : descriptor.IsWritable) :
    (Descriptor.ofValue descriptor.toValue).tokens = descriptor.tokens := by
  have hkeys := nodup_keys Breakpoint.key_injective MediaStyles.toValue hdescriptor.breakpoints
  rw [Descriptor.toValue, ofFields_eq hkeys, tokens_ofValue_object, List.flatMap_map,
    Descriptor.tokens]
  apply List.flatMap_congr
  intro entry hentry
  simp only [Breakpoint.ofKey?_key, Option.map_some, Option.getD_some]
  exact bundleTokens_toValue (hdescriptor.media entry hentry) entry.1

/-- **A descriptor and the object that it denotes have the same class string.** -/
theorem resolveValue_toValue {descriptor : Descriptor} (hdescriptor : descriptor.IsWritable) :
    resolveValue descriptor.toValue = descriptor.resolve := by
  rw [resolveValue, Descriptor.resolve, tokens_toValue hdescriptor, Descriptor.resolve]

/-- No dark styles for any state, and below a class that has the name of a state. -/
theorem resolveValue_toValue_two_breakpoints :
    ∃ descriptor : Descriptor, descriptor.IsWritable
      ∧ resolveValue descriptor.toValue = descriptor.resolve
      ∧ descriptor.resolve = "md:hover:a md:hover:b dark:x dark:y hover" := by
  let above : MediaStyles := ⟨[.state .hover (.classes " a  b"), .dark (.states [])]⟩
  let below : MediaStyles :=
    ⟨[.dark (.style (.conditional [("x y", true), ("z", false)])),
      .state .static (.conditional [("hover", true)])]⟩
  have hdescriptor : Descriptor.IsWritable ⟨[(.medium, above), (.base, below)]⟩ := by decide
  exact ⟨_, hdescriptor, resolveValue_toValue hdescriptor, by decide +kernel⟩

end UtilityClasses
