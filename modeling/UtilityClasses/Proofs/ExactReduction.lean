import UtilityClasses.Evaluation
import UtilityClasses.Proofs.LiteralValues
import UtilityClasses.Proofs.Meaning

/-!
# Reducing a literal is exact

A literal is reduced by taking its numbers, nulls and lists for true. The same is done here to the
value that the literal has; the two agree, also when the literal repeats keys. The classes of the
value stay the same, unless a null or a zero was the condition of a class.
-/

namespace UtilityClasses.Json

/-! ### Values of literals -/

mutual

/-- The value of a literal, told from the literal as it is written: of a repeated key the first place
and the last value count. -/
def Value.settled : Value → Value
  | .list items => .list (settledItems items)
  | .object fields => .object (settledFields [] fields)
  | .null => .null
  | .boolean value => .boolean value
  | .number value => .number value
  | .text value => .text value

def settledItems : List Value → List Value
  | [] => []
  | item :: rest => item.settled :: settledItems rest

/-- The fields of an object whose first members gave `known`. -/
def settledFields (known : Fields) : List (String × Value) → Fields
  | [] => known
  | (key, value) :: rest => settledFields (setField known key value.settled) rest

end

mutual

/-- The value with its numbers, nulls and lists taken for true, down to any depth of objects. -/
def Value.coarse : Value → Value
  | .null | .number _ | .list _ => .boolean true
  | .boolean value => .boolean value
  | .text value => .text value
  | .object fields => .object (coarseFields fields)

def coarseFields : List (String × Value) → Fields
  | [] => []
  | (key, value) :: rest => (key, value.coarse) :: coarseFields rest

end

theorem coarseFields_eq_map (fields : Fields) :
    coarseFields fields = fields.map fun field => (field.1, field.2.coarse) := by
  induction fields with
  | nil => rfl
  | cons field rest ih => rw [coarseFields, ih, List.map_cons]

theorem coarseFields_setField (known : Fields) (key : String) (value : Value) :
    coarseFields (setField known key value) = setField (coarseFields known) key value.coarse := by
  induction known with
  | nil => rfl
  | cons field rest ih =>
      rw [setField, coarseFields, setField]
      split
      · rfl
      · rw [coarseFields, ih]

end UtilityClasses.Json

namespace UtilityClasses

open Json (Value Fields setField itemsAreJson fieldsAreJson settledItems settledFields coarseFields
  coarseFields_eq_map coarseFields_setField)
open Script

/-! ### Literals without repeated keys -/

mutual

/-- A value that repeats no key is the value of its own literal. -/
theorem settled_eq (value : Value) (hjson : value.IsJson) : value.settled = value := by
  cases value with
  | list items =>
      rw [Value.settled, settledItems_eq items hjson]
  | object fields =>
      have hkeys : (([] ++ fields).map Prod.fst).Nodup := hjson.1
      rw [Value.settled, settledFields_eq [] fields hjson.2 hkeys, List.nil_append]
  | _ => rfl

theorem settledItems_eq (items : List Value) (hjson : itemsAreJson items) :
    settledItems items = items := by
  match items, hjson with
  | [], _ => rfl
  | item :: rest, ⟨hitem, hrest⟩ =>
      rw [settledItems, settled_eq item hitem, settledItems_eq rest hrest]

theorem settledFields_eq (known fields : Fields) (hjson : fieldsAreJson fields)
    (hkeys : ((known ++ fields).map Prod.fst).Nodup) :
    settledFields known fields = known ++ fields := by
  match fields, hjson with
  | [], _ => rw [settledFields, List.append_nil]
  | (key, value) :: rest, ⟨hvalue, hrest⟩ =>
      rw [settledFields, settled_eq value hvalue, setField_new (key_new hkeys),
        List.append_cons known _ rest]
      exact settledFields_eq _ rest hrest (by rwa [← List.append_cons])

end

/-! ### Reduction of a literal -/

mutual

/-- **A literal is reduced to its value**, with numbers, nulls and lists taken for true. -/
theorem reduce_spells {written : Value} {expr : Expr} (hspells : Spells written expr) :
    reduce expr = written.settled.coarse := by
  cases hspells with
  | object hfields =>
      rw [reduce, Value.settled, Value.coarse]
      exact congrArg _ (reduceMembers_spells [] hfields)
  | _ => rfl

theorem reduceMembers_spells (known : Fields) {fields : Fields} {members : List Member}
    (hspells : SpellsFields fields members) :
    reduceMembers (coarseFields known) members = coarseFields (settledFields known fields) := by
  cases hspells with
  | nil => rw [reduceMembers, settledFields]
  | cons key hvalue hfields =>
      rw [reduceMembers, reduceMember, Key.name?, settledFields]
      simp only [reduce_spells hvalue, ← coarseFields_setField]
      exact reduceMembers_spells _ hfields

end

/-! ### Conditions that reduction keeps

A condition that is null or a zero switches its class off, but is taken for true. -/

def isVoid : Value → Bool
  | .null => true
  | .number value => value.isZero
  | _ => false

def StyleHasNoVoid : Value → Prop
  | .object fields => ∀ field ∈ fields, isVoid field.2 = false
  | _ => True

def DarkHasNoVoid : Value → Prop
  | .object fields =>
    if ∃ field ∈ fields, field.1 ∈ stateKeys then
      ∀ field ∈ fields, field.1 ∈ stateKeys → StyleHasNoVoid field.2
    else StyleHasNoVoid (.object fields)
  | _ => True

def BundleHasNoVoid : Value → Prop
  | .object fields =>
    ∀ field ∈ fields, if field.1 = "dark" then DarkHasNoVoid field.2
      else field.1 ∈ stateKeys → StyleHasNoVoid field.2
  | _ => True

/-- No class of a descriptor is switched off by a null or a zero. -/
def HasNoVoid : Value → Prop
  | .object fields => ∀ field ∈ fields, field.1 ∈ breakpointKeys → BundleHasNoVoid field.2
  | _ => True

instance : DecidablePred StyleHasNoVoid
  | .object fields => inferInstanceAs (Decidable (∀ field ∈ fields, isVoid field.2 = false))
  | .null | .boolean _ | .number _ | .text _ | .list _ => isTrue trivial

instance : DecidablePred DarkHasNoVoid
  | .object fields => inferInstanceAs (Decidable (if ∃ field ∈ fields, field.1 ∈ stateKeys then
      ∀ field ∈ fields, field.1 ∈ stateKeys → StyleHasNoVoid field.2
    else StyleHasNoVoid (.object fields)))
  | .null | .boolean _ | .number _ | .text _ | .list _ => isTrue trivial

instance : DecidablePred BundleHasNoVoid
  | .object fields => inferInstanceAs (Decidable (∀ field ∈ fields,
      if field.1 = "dark" then DarkHasNoVoid field.2
      else field.1 ∈ stateKeys → StyleHasNoVoid field.2))
  | .null | .boolean _ | .number _ | .text _ | .list _ => isTrue trivial

instance : DecidablePred HasNoVoid
  | .object fields => inferInstanceAs (Decidable (∀ field ∈ fields,
      field.1 ∈ breakpointKeys → BundleHasNoVoid field.2))
  | .null | .boolean _ | .number _ | .text _ | .list _ => isTrue trivial

theorem switchesOff_coarse {value : Value} (hvoid : isVoid value = false) :
    switchesOff value.coarse = switchesOff value := by
  cases value with
  | null => exact absurd hvoid (by decide)
  | number value => exact hvoid.symm
  | _ => rfl

/-- What is collected field by field is collected from the coarse fields as well. -/
theorem flatMap_coarseFields {fields : Fields} {collect : String × Value → List String}
    (hcollect : ∀ field ∈ fields, collect (field.1, field.2.coarse) = collect field) :
    (coarseFields fields).flatMap collect = fields.flatMap collect := by
  rw [coarseFields_eq_map, List.flatMap_map]
  exact List.flatMap_congr hcollect

theorem exists_state_coarse (fields : Fields) :
    (∃ field ∈ coarseFields fields, field.1 ∈ stateKeys)
      ↔ ∃ field ∈ fields, field.1 ∈ stateKeys := by
  simp [coarseFields_eq_map]

theorem selectedWords_coarse {value : Value} (hvoid : StyleHasNoVoid value) :
    selectedWords value.coarse = selectedWords value := by
  cases value with
  | object fields =>
      refine flatMap_coarseFields fun field hfield => ?_
      simp only [switchesOff_coarse (hvoid field hfield)]
  | _ => rfl

theorem markedWords_coarse {value : Value} (hvoid : StyleHasNoVoid value) (marks : String) :
    markedWords marks value.coarse = markedWords marks value := by
  rw [markedWords, markedWords, selectedWords_coarse hvoid]

theorem darkMeaning_coarse {value : Value} (hvoid : DarkHasNoVoid value) (marks : String) :
    darkMeaning marks value.coarse = darkMeaning marks value := by
  cases value with
  | object fields =>
      rw [DarkHasNoVoid] at hvoid
      rw [Value.coarse, darkMeaning, darkMeaning]
      by_cases hstates : ∃ field ∈ fields, field.1 ∈ stateKeys
      · rw [if_pos hstates] at hvoid
        rw [if_pos hstates, if_pos ((exists_state_coarse fields).2 hstates)]
        refine flatMap_coarseFields fun field hfield => ?_
        by_cases hkey : field.1 ∈ stateKeys
        · simp only [if_pos hkey, markedWords_coarse (hvoid field hfield hkey)]
        · simp only [if_neg hkey]
      · rw [if_neg hstates] at hvoid
        rw [if_neg hstates, if_neg (mt (exists_state_coarse fields).1 hstates)]
        exact markedWords_coarse hvoid marks
  | _ => rfl

theorem bundleMeaning_coarse {value : Value} (hvoid : BundleHasNoVoid value) (marks : String) :
    bundleMeaning marks value.coarse = bundleMeaning marks value := by
  cases value with
  | object fields =>
      refine flatMap_coarseFields fun field hfield => ?_
      have hentry := hvoid field hfield
      by_cases hdark : field.1 = "dark"
      · rw [if_pos hdark] at hentry
        simp only [if_pos hdark, darkMeaning_coarse hentry]
      · rw [if_neg hdark] at hentry
        by_cases hkey : field.1 ∈ stateKeys
        · simp only [if_neg hdark, if_pos hkey, markedWords_coarse (hentry hkey)]
        · simp only [if_neg hdark, if_neg hkey]
  | _ => rfl

/-- Where no condition is void, taking numbers, nulls and lists for true keeps every class. -/
theorem meaning_coarse {value : Value} (hvoid : HasNoVoid value) :
    meaning value.coarse = meaning value := by
  cases value with
  | object fields =>
      refine flatMap_coarseFields fun field hfield => ?_
      by_cases hkey : field.1 ∈ breakpointKeys
      · simp only [if_pos hkey, bundleMeaning_coarse (hvoid field hfield hkey)]
      · simp only [if_neg hkey]
  | _ => rfl

/-- **Reducing a literal is exact.** The literal may repeat keys; its value is settled by the last
entry of each. -/
theorem resolveValue_reduce_literal {value written : Value} {expr : Expr}
    (hvalue : written.settled = value) (hspells : Spells written expr) (hvoid : HasNoVoid value) :
    resolveValue (reduce expr) = resolveValue value := by
  have hresolve (other : Value) : resolveValue other = Text.joinWords (meaning other) := by
    rw [← tokens_ofValue]
    rfl
  calc resolveValue (reduce expr)
      = resolveValue value.coarse := by rw [reduce_spells hspells, hvalue]
    _ = Text.joinWords (meaning value) := by rw [hresolve, meaning_coarse hvoid]
    _ = resolveValue value := (hresolve value).symm

/-- In `{ sm: 0, sm: { dark: { "a b": 1, c: null, c: "on" }, hover: [] } }` the keys `sm` and `c` are
settled by their last entries. -/
theorem resolveValue_reduce_repeated_keys :
    let written : Value := .object [("sm", .number (.natural 0)), ("sm", .object
      [("dark", .object [("a b", .number (.natural 1)), ("c", .null), ("c", .text "on")]),
        ("hover", .list [])])]
    let value : Value := .object [("sm", .object
      [("dark", .object [("a b", .number (.natural 1)), ("c", .text "on")]), ("hover", .list [])])]
    let expr : Expr := .object [.entry (.text (some "sm")) (.number (.ofDigits 10 [0])),
      .entry (.text (some "sm")) (.object
        [.entry (.text (some "dark")) (.object
          [.entry (.text (some "a b")) (.number (.ofDigits 10 [1])),
            .entry (.text (some "c")) .null, .entry (.text (some "c")) (.text (some "on"))]),
          .entry (.text (some "hover")) (.list [])])]
    written.settled = value ∧ Spells written expr ∧ HasNoVoid value
      ∧ resolveValue (reduce expr) = resolveValue value := by
  intro written value expr
  have hvalue : written.settled = value := rfl
  have hstyle := Spells.object (.cons "a b" (.number (.natural 1) (.ofDigits 10 [1]))
    (.cons "c" .null (.cons "c" (.text "on") .nil)))
  have hbundle := Spells.object (.cons "dark" hstyle (.cons "hover" (.list .nil) .nil))
  have hspells : Spells written expr :=
    .object (.cons "sm" (.number (.natural 0) (.ofDigits 10 [0])) (.cons "sm" hbundle .nil))
  have hvoid : HasNoVoid value := by decide
  exact ⟨hvalue, hspells, hvoid, resolveValue_reduce_literal hvalue hspells hvoid⟩

end UtilityClasses
