import Mathlib.Data.List.Basic
import UtilityClasses.Proofs.Coverage

/-!
# What a loose descriptor means

The classes that a loose value stands for, entry by entry, told from its keys alone: no reading into
a descriptor and no tables of marks are used. Resolving the value writes exactly these classes, in
the order of the entries and as often as they are declared.
-/

namespace UtilityClasses

open Json (Value Fields)

/-! ### The meaning, level by level -/

def breakpointKeys : List String := ["base", "sm", "md", "lg", "xl", "2xl"]

def stateKeys : List String :=
  ["static", "hover", "focus", "active", "visited", "target", "first", "last", "only", "odd", "even",
    "empty", "disabled", "enabled", "checked", "indeterminate", "default", "required", "valid",
    "invalid", "autofill"]

/-- What a key puts in front of the classes in its entry. -/
def keyMark (key : String) : String :=
  if key = "base" ∨ key = "static" then "" else key ++ ":"

/-- The conditions that switch a class off. -/
def switchesOff : Value → Bool
  | .null => true
  | .boolean value => value = false
  | .number value => value.isZero
  | .text value => value = ""
  | .list _ => false
  | .object _ => false

def selectedWords : Value → List String
  | .text classes => Text.wordsOf classes
  | .object fields =>
    fields.flatMap fun (classes, condition) =>
      if switchesOff condition then [] else Text.wordsOf classes
  | _ => []

def markedWords (marks : String) (value : Value) : List String :=
  (selectedWords value).map fun word => marks ++ word

/-- Under `dark` an object with the key of a state holds styles of states; any other is a style. -/
def darkMeaning (marks : String) : Value → List String
  | .object fields =>
    if ∃ field ∈ fields, field.1 ∈ stateKeys then
      fields.flatMap fun (key, value) =>
        if key ∈ stateKeys then markedWords (marks ++ keyMark key) value else []
    else markedWords marks (.object fields)
  | value => markedWords marks value

def bundleMeaning (marks : String) : Value → List String
  | .object fields =>
    fields.flatMap fun (key, value) =>
      if key = "dark" then darkMeaning (marks ++ "dark:") value
      else if key ∈ stateKeys then markedWords (marks ++ keyMark key) value
      else []
  | _ => []

/-- The classes of a loose descriptor with their marks, in the order of its entries. -/
def meaning : Value → List String
  | .object fields =>
    fields.flatMap fun (key, value) =>
      if key ∈ breakpointKeys then bundleMeaning (keyMark key) value else []
  | _ => []

/-! ### Keys -/

theorem map_mark_breakpoint (key : String) :
    (Breakpoint.ofKey? key).map Breakpoint.mark
      = if key ∈ breakpointKeys then some (keyMark key) else none := by
  by_cases hkey : key ∈ breakpointKeys
  · rw [if_pos hkey]
    simp only [breakpointKeys, List.mem_cons, List.not_mem_nil, or_false] at hkey
    rcases hkey with rfl | rfl | rfl | rfl | rfl | rfl <;> rfl
  · have hnone : Breakpoint.ofKey? key = none := by
      refine List.find?_eq_none.2 fun breakpoint _ hfound => hkey ?_
      rw [← beq_iff_eq.1 hfound]
      cases breakpoint <;> decide
    rw [if_neg hkey, hnone, Option.map_none]

theorem map_mark_state (key : String) :
    (State.ofKey? key).map State.mark
      = if key ∈ stateKeys then some (keyMark key) else none := by
  by_cases hkey : key ∈ stateKeys
  · rw [if_pos hkey]
    simp only [stateKeys, List.mem_cons, List.not_mem_nil, or_false] at hkey
    rcases hkey with rfl | rfl | rfl | rfl | rfl | rfl | rfl | rfl | rfl | rfl | rfl | rfl | rfl |
      rfl | rfl | rfl | rfl | rfl | rfl | rfl | rfl <;> rfl
  · have hnone : State.ofKey? key = none := by
      refine List.find?_eq_none.2 fun state _ hfound => hkey ?_
      rw [← beq_iff_eq.1 hfound]
      cases state <;> decide
    rw [if_neg hkey, hnone, Option.map_none]

theorem isSome_state (key : String) : (State.ofKey? key).isSome = true ↔ key ∈ stateKeys := by
  rw [← Option.isSome_map, map_mark_state]
  split
  · next hkey => simp [hkey]
  · next hkey => simp [hkey]

theorem namesState_iff (fields : Fields) :
    namesState fields = true ↔ ∃ field ∈ fields, field.1 ∈ stateKeys := by
  simp only [namesState, List.any_eq_true, isSome_state]

/-- What is collected for a key that is known depends on its mark alone. -/
theorem getD_map_mark {α : Type} {known : Option α} {mark : α → String} {isKnown : Prop}
    [Decidable isKnown] {key : String}
    (hmark : known.map mark = if isKnown then some key else none)
    (collect : String → List String) :
    (known.map fun found => collect (mark found)).getD [] = if isKnown then collect key else [] := by
  have hcollect : (known.map fun found => collect (mark found)) = (known.map mark).map collect := by
    rw [Option.map_map]
    rfl
  rw [hcollect, hmark]
  split <;> rfl

/-! ### Resolution writes the meaning -/

theorem isTruthy_eq (value : Value) : value.isTruthy = !switchesOff value := by
  cases value with
  | boolean value => cases value <;> rfl
  | text value =>
      rw [Value.isTruthy, switchesOff, Bool.not_inj_iff, Bool.eq_iff_iff, String.isEmpty_iff]
      exact decide_eq_true_iff.symm
  | _ => rfl

theorem styleTokens_eq (marks : String) (value : Value) :
    styleTokens marks value = markedWords marks value := by
  cases value with
  | object fields =>
      have hselected : Style.tokens (.conditional (fields.map fun (key, value) =>
          (key, value.isTruthy))) = selectedWords (.object fields) := by
        rw [selectedWords]
        induction fields with
        | nil => rfl
        | cons field rest ih =>
            simp only [Style.tokens, List.map_cons, List.filter_cons, List.flatMap_cons,
              isTruthy_eq] at ih ⊢
            cases switchesOff field.2 <;> simp [ih]
      exact congrArg _ hselected
  | _ => rfl

theorem darkTokens_eq (breakpoint : Breakpoint) (value : Value) :
    darkTokens breakpoint value = darkMeaning (breakpoint.mark ++ "dark:") value := by
  cases value with
  | object fields =>
      rw [darkTokens_object, darkMeaning, styleTokens_eq]
      refine if_congr (namesState_iff fields) (List.flatMap_congr fun field _ => ?_) rfl
      simp only [styleTokens_eq]
      exact getD_map_mark (map_mark_state field.1) fun mark =>
        markedWords (breakpoint.mark ++ "dark:" ++ mark) field.2
  | _ => rfl

theorem bundleTokens_eq (breakpoint : Breakpoint) (value : Value) :
    bundleTokens breakpoint value = bundleMeaning breakpoint.mark value := by
  cases value with
  | object fields =>
      rw [bundleTokens_object, bundleMeaning]
      refine List.flatMap_congr fun field _ => if_congr Iff.rfl (darkTokens_eq _ _) ?_
      simp only [styleTokens_eq]
      exact getD_map_mark (map_mark_state field.1) fun mark =>
        markedWords (breakpoint.mark ++ mark) field.2
  | _ => rfl

theorem tokens_ofValue (value : Value) : (Descriptor.ofValue value).tokens = meaning value := by
  cases value with
  | object fields =>
      rw [tokens_ofValue_object, meaning]
      refine List.flatMap_congr fun field _ => ?_
      simp only [bundleTokens_eq]
      exact getD_map_mark (map_mark_breakpoint field.1) fun mark => bundleMeaning mark field.2
  | _ => rfl

/-- **Resolving a loose value writes its meaning**: the words of the class string are the classes
of its entries, in their order and as often as they are declared. -/
theorem wordsOf_resolveValue_eq_meaning (value : Value) :
    Text.wordsOf (resolveValue value) = meaning value := by
  rw [wordsOf_resolveValue, tokens_ofValue]

/-- Of a dark bundle only the styles of states count, in any entry only what is well-typed. -/
example : meaning (.object [("print", .object [("static", .text "a")]), ("md", .object
    [("dark", .object [("hover", .text " b  c"), ("d", .boolean true), ("focus", .null)]),
      ("static", .object [("e", .list []), ("f", .text "")]), ("dark", .list [])])])
    = ["md:dark:hover:b", "md:dark:hover:c", "md:e"] := by decide

end UtilityClasses
