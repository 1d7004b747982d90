import UtilityClasses.Proofs.Words

/-!
# Values that select at least the classes of another

Two loose values with the same keys in the same places are compared level by level. Where one is a
style, the other is a style that selects at least the same classes, in the same order; what is no
style may stand against anything. Every token of the first is then found, in order, among those of
the second.
-/

namespace UtilityClasses

open Json (Value Fields setField)

/-- Fields with the same keys in the same order, whose values are related at every key. -/
inductive Covers (related : String → Value → Value → Prop) : Fields → Fields → Prop where
  | nil : Covers related [] []
  | cons {key : String} {value other : Value} {fields others : Fields}
      (hvalue : related key value other) (hrest : Covers related fields others) :
      Covers related ((key, value) :: fields) ((key, other) :: others)

variable {related : String → Value → Value → Prop} {fields others : Fields}

theorem Covers.setField {key : String} {value other : Value}
    (hcovers : Covers related fields others) (hvalue : related key value other) :
    Covers related (setField fields key value) (setField others key other) := by
  induction hcovers with
  | nil => exact .cons hvalue .nil
  | @cons name old known rest knowns hold hrest ih =>
      rw [Json.setField, Json.setField]
      by_cases heq : name = key
      · rw [if_pos heq, if_pos heq]
        exact .cons (heq ▸ hvalue) hrest
      · rw [if_neg heq, if_neg heq]
        exact .cons hold ih

theorem Covers.mono {weaker : String → Value → Value → Prop}
    (himp : ∀ key value other, related key value other → weaker key value other)
    (hcovers : Covers related fields others) : Covers weaker fields others := by
  induction hcovers with
  | nil => exact .nil
  | cons hvalue _ ih => exact .cons (himp _ _ _ hvalue) ih

/-- Lists that are collected field by field from related values are sublists. -/
theorem Covers.flatMap_sublist {α : Type} {collect : String × Value → List α}
    (hcovers : Covers related fields others)
    (hsub : ∀ key value other, related key value other →
      (collect (key, value)).Sublist (collect (key, other))) :
    (fields.flatMap collect).Sublist (others.flatMap collect) := by
  induction hcovers with
  | nil => exact List.Sublist.slnil
  | cons hvalue _ ih =>
      rw [List.flatMap_cons, List.flatMap_cons]
      exact (hsub _ _ _ hvalue).append ih

theorem namesState_eq (hcovers : Covers related fields others) :
    namesState fields = namesState others := by
  induction hcovers with
  | nil => rfl
  | cons _ _ ih =>
      simp only [namesState, List.any_cons] at ih ⊢
      rw [ih]

/-! ### Tokens, field by field -/

/-- The tokens of a value that is read as a style, with marks in front. -/
def styleTokens (marks : String) (value : Value) : List String :=
  ((Style.ofValue? value).map fun style => style.marked marks).getD []

def darkTokens (breakpoint : Breakpoint) (value : Value) : List String :=
  ((Dark.ofValue? value).map fun dark => (Variant.dark dark).tokens breakpoint).getD []

def bundleTokens (breakpoint : Breakpoint) (value : Value) : List String :=
  ((MediaStyles.ofValue? value).map fun styles =>
    styles.variants.flatMap (Variant.tokens breakpoint)).getD []

theorem flatMap_filterMap_getD {α β γ : Type} (items : List α) (choose : α → Option β)
    (collect : β → List γ) :
    (items.filterMap choose).flatMap collect
      = items.flatMap fun item => ((choose item).map collect).getD [] := by
  induction items with
  | nil => rfl
  | cons item items ih =>
      cases hchoose : choose item <;> simp [hchoose, ih]

theorem darkTokens_object (breakpoint : Breakpoint) (fields : Fields) :
    darkTokens breakpoint (.object fields)
      = if namesState fields then
          fields.flatMap fun (key, value) =>
            ((State.ofKey? key).map fun state =>
              styleTokens (breakpoint.mark ++ darkMark ++ state.mark) value).getD []
        else styleTokens (breakpoint.mark ++ darkMark) (.object fields) := by
  cases hstate : namesState fields with
  | false => simp [darkTokens, Dark.ofValue?, hstate, styleTokens, Style.ofValue?, Variant.tokens]
  | true =>
      simp only [darkTokens, Dark.ofValue?, hstate, if_true, Option.map_some, Option.getD_some,
        Variant.tokens, flatMap_filterMap_getD]
      congr 1
      funext ⟨key, value⟩
      cases hkey : State.ofKey? key <;> cases hvalue : Style.ofValue? value <;>
        simp [hvalue, styleTokens]

theorem bundleTokens_object (breakpoint : Breakpoint) (fields : Fields) :
    bundleTokens breakpoint (.object fields)
      = fields.flatMap fun (key, value) =>
          if key = darkKey then darkTokens breakpoint value
          else ((State.ofKey? key).map fun state =>
            styleTokens (breakpoint.mark ++ state.mark) value).getD [] := by
  simp only [bundleTokens, MediaStyles.ofValue?, Option.map_some, Option.getD_some,
    flatMap_filterMap_getD]
  congr 1
  funext ⟨key, value⟩
  by_cases hdark : key = darkKey
  · simp only [Variant.ofField?, hdark, if_true, darkTokens, Option.map_map]
    rfl
  · cases hkey : State.ofKey? key <;> cases hvalue : Style.ofValue? value <;>
      simp [Variant.ofField?, hdark, hkey, hvalue, styleTokens, Variant.tokens]

theorem tokens_ofValue_object (fields : Fields) :
    (Descriptor.ofValue (.object fields)).tokens
      = fields.flatMap fun (key, value) =>
          ((Breakpoint.ofKey? key).map fun breakpoint =>
            bundleTokens breakpoint value).getD [] := by
  simp only [Descriptor.ofValue, Descriptor.tokens, flatMap_filterMap_getD]
  congr 1
  funext ⟨key, value⟩
  cases hkey : Breakpoint.ofKey? key <;> cases hvalue : MediaStyles.ofValue? value <;>
    simp [hvalue, bundleTokens]

/-! ### Coverage of each kind of value -/

def StaysTruthy (value other : Value) : Prop := value.isTruthy = true → other.isTruthy = true

inductive StyleCovers : Value → Value → Prop where
  | absent {value : Value} (habsent : Style.ofValue? value = none) (other : Value) :
      StyleCovers value other
  | text (words : String) : StyleCovers (.text words) (.text words)
  | object {fields others : Fields} (hfields : Covers (fun _ => StaysTruthy) fields others) :
      StyleCovers (.object fields) (.object others)

/-- In the dark slot an object may be a style or hold the styles of states; which it is, its keys
tell. -/
def DarkEntryCovers (key : String) (value other : Value) : Prop :=
  StaysTruthy value other ∧ ((State.ofKey? key).isSome = true → StyleCovers value other)

inductive DarkCovers : Value → Value → Prop where
  | absent {value : Value} (habsent : Dark.ofValue? value = none) (other : Value) :
      DarkCovers value other
  | text (words : String) : DarkCovers (.text words) (.text words)
  | object {fields others : Fields} (hfields : Covers DarkEntryCovers fields others) :
      DarkCovers (.object fields) (.object others)

def BundleEntryCovers (key : String) (value other : Value) : Prop :=
  if key = darkKey then DarkCovers value other
  else (State.ofKey? key).isSome = true → StyleCovers value other

inductive BundleCovers : Value → Value → Prop where
  | absent {value : Value} (habsent : MediaStyles.ofValue? value = none) (other : Value) :
      BundleCovers value other
  | object {fields others : Fields} (hfields : Covers BundleEntryCovers fields others) :
      BundleCovers (.object fields) (.object others)

def DescriptorEntryCovers (key : String) (value other : Value) : Prop :=
  (Breakpoint.ofKey? key).isSome = true → BundleCovers value other

theorem selected_sublist (hcovers : Covers (fun _ => StaysTruthy) fields others) :
    (Style.tokens (.conditional (fields.map fun (key, value) => (key, value.isTruthy)))).Sublist
      (Style.tokens (.conditional (others.map fun (key, value) => (key, value.isTruthy)))) := by
  induction hcovers with
  | nil => exact List.Sublist.slnil
  | @cons key value other fields others hvalue _ ih =>
      simp only [Style.tokens, List.map_cons, List.filter_cons] at ih ⊢
      cases htruthy : value.isTruthy with
      | true =>
          rw [if_pos rfl, if_pos (hvalue htruthy), List.flatMap_cons, List.flatMap_cons]
          exact List.Sublist.append (List.Sublist.refl _) ih
      | false =>
          rw [if_neg (by simp)]
          split
          · rw [List.flatMap_cons]
            exact ih.trans (List.sublist_append_right _ _)
          · exact ih

theorem StyleCovers.tokens_sublist {value other : Value} (hcovers : StyleCovers value other)
    (marks : String) : (styleTokens marks value).Sublist (styleTokens marks other) := by
  cases hcovers with
  | absent habsent => simp [styleTokens, habsent]
  | text words => exact List.Sublist.refl _
  | object hfields => exact (selected_sublist hfields).map _

theorem DarkCovers.tokens_sublist {value other : Value} (hcovers : DarkCovers value other)
    (breakpoint : Breakpoint) :
    (darkTokens breakpoint value).Sublist (darkTokens breakpoint other) := by
  cases hcovers with
  | absent habsent => simp [darkTokens, habsent]
  | text words => exact List.Sublist.refl _
  | @object fields others hfields =>
      rw [darkTokens_object, darkTokens_object, ← namesState_eq hfields]
      split
      · refine hfields.flatMap_sublist fun key value other hentry => ?_
        dsimp only
        cases hkey : State.ofKey? key with
        | none => exact List.Sublist.refl _
        | some state => exact (hentry.2 (by simp [hkey])).tokens_sublist _
      · have hstyle : StyleCovers (.object fields) (.object others) :=
          .object (hfields.mono fun _ _ _ hentry => hentry.1)
        exact hstyle.tokens_sublist _

theorem BundleCovers.tokens_sublist {value other : Value} (hcovers : BundleCovers value other)
    (breakpoint : Breakpoint) :
    (bundleTokens breakpoint value).Sublist (bundleTokens breakpoint other) := by
  cases hcovers with
  | absent habsent => simp [bundleTokens, habsent]
  | object hfields =>
      rw [bundleTokens_object, bundleTokens_object]
      refine hfields.flatMap_sublist fun key value other hentry => ?_
      dsimp only
      by_cases hdark : key = darkKey
      · rw [BundleEntryCovers, if_pos hdark] at hentry
        rw [if_pos hdark, if_pos hdark]
        exact hentry.tokens_sublist breakpoint
      · rw [BundleEntryCovers, if_neg hdark] at hentry
        rw [if_neg hdark, if_neg hdark]
        cases hkey : State.ofKey? key with
        | none => exact List.Sublist.refl _
        | some state => exact (hentry (by simp [hkey])).tokens_sublist _

/-- **Coverage keeps every token**, with its marks, in its place and as often as it occurs. -/
theorem tokens_sublist_of_covers (hcovers : Covers DescriptorEntryCovers fields others) :
    (Text.wordsOf (resolveValue (.object fields))).Sublist
      (Text.wordsOf (resolveValue (.object others))) := by
  rw [wordsOf_resolveValue, wordsOf_resolveValue, tokens_ofValue_object, tokens_ofValue_object]
  refine hcovers.flatMap_sublist fun key value other hentry => ?_
  dsimp only
  cases hkey : Breakpoint.ofKey? key with
  | none => exact List.Sublist.refl _
  | some breakpoint => exact (hentry (by simp [hkey])).tokens_sublist breakpoint

end UtilityClasses
