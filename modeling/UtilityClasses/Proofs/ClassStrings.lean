import UtilityClasses.Proofs.Meaning
import UtilityClasses.Proofs.Spacing

/-!
# The class string of a descriptor

A descriptor declares styles for slots: a breakpoint, the dark scheme or not, and a state. Its class
string spells the words of every style in effect, each behind the marks of its slot, in the order of
declaration, with single spaces between neighbours and no other blank. So the string is split into
exactly these words, and what is declared later is spelled behind what was declared before.
-/

namespace UtilityClasses

open Text

/-! ### What is declared -/

structure Slot where
  breakpoint : Breakpoint
  isDark : Bool
  state : State
  deriving DecidableEq, Repr

/-- What stands in front of the words of a slot. -/
def Slot.marks (slot : Slot) : String :=
  keyMark slot.breakpoint.key ++ (if slot.isDark then "dark:" else "") ++ keyMark slot.state.key

/-- The texts of a style that are in effect. -/
def Style.texts : Style → List String
  | .classes text => [text]
  | .conditional entries => entries.filterMap fun (text, enabled) => if enabled then some text else none

/-- The styles of a variant with their slots; a style of the dark slot itself is in the static
state. -/
def Variant.declared (breakpoint : Breakpoint) : Variant → List (Slot × Style)
  | .state condition style => [(⟨breakpoint, false, condition⟩, style)]
  | .dark (.style style) => [(⟨breakpoint, true, .static⟩, style)]
  | .dark (.states styles) =>
    styles.map fun (condition, style) => (⟨breakpoint, true, condition⟩, style)

namespace Descriptor

def declared (descriptor : Descriptor) : List (Slot × Style) :=
  descriptor.media.flatMap fun (breakpoint, styles) =>
    styles.variants.flatMap (Variant.declared breakpoint)

/-- One word for every word of a text in effect, behind the marks of its slot. -/
def classList (descriptor : Descriptor) : List String :=
  descriptor.declared.flatMap fun (slot, style) =>
    style.texts.flatMap fun text => (wordsOf text).map (slot.marks ++ ·)

/-- The descriptor with the bundles of another one added one by one. -/
def addAll (descriptor more : Descriptor) : Descriptor :=
  more.media.foldl (fun grown (breakpoint, styles) => grown.addMedia breakpoint styles) descriptor

end Descriptor

/-! ### Resolution spells what is declared -/

theorem Breakpoint.mark_eq (breakpoint : Breakpoint) :
    breakpoint.mark = keyMark breakpoint.key := by
  cases breakpoint <;> rfl

theorem State.mark_eq (state : State) : state.mark = keyMark state.key := by
  cases state <;> rfl

theorem Style.tokens_eq (style : Style) : style.tokens = style.texts.flatMap wordsOf := by
  cases style with
  | classes text => exact (List.flatMap_singleton _ _).symm
  | conditional entries =>
      rw [Style.tokens, Style.texts]
      induction entries with
      | nil => rfl
      | cons entry rest ih =>
          obtain ⟨text, enabled⟩ := entry
          cases enabled with
          | false => exact ih
          | true =>
              rw [List.filter_cons, if_pos rfl, List.flatMap_cons, ih]
              rfl

/-- The words of a style behind its marks. -/
theorem Style.marked_eq (style : Style) (marks : String) :
    style.marked marks = style.texts.flatMap fun text => (wordsOf text).map (marks ++ ·) := by
  rw [Style.marked, Style.tokens_eq, List.map_flatMap]

/-! The marks of a slot are those in front of its words, where a missing one is empty. -/

theorem Slot.marks_bright (breakpoint : Breakpoint) (condition : State) :
    Slot.marks ⟨breakpoint, false, condition⟩ = breakpoint.mark ++ condition.mark := by
  simp [Slot.marks, Breakpoint.mark_eq, State.mark_eq]

theorem Slot.marks_dark (breakpoint : Breakpoint) (condition : State) :
    Slot.marks ⟨breakpoint, true, condition⟩ = breakpoint.mark ++ darkMark ++ condition.mark := by
  simp [Slot.marks, Breakpoint.mark_eq, State.mark_eq, darkMark]

theorem Variant.tokens_eq (breakpoint : Breakpoint) (variant : Variant) :
    variant.tokens breakpoint
      = (variant.declared breakpoint).flatMap fun entry => entry.2.marked entry.1.marks := by
  cases variant with
  | state condition style =>
      have hmarks := Slot.marks_bright breakpoint condition
      rw [Variant.tokens, Variant.declared, List.flatMap_singleton, hmarks]
  | dark dark =>
      cases dark with
      | style style =>
          have hmarks : Slot.marks ⟨breakpoint, true, .static⟩ = breakpoint.mark ++ darkMark := by
            rw [Slot.marks_dark, State.mark, String.append_empty]
          rw [Variant.tokens, Variant.declared, List.flatMap_singleton, hmarks]
      | states styles =>
          rw [Variant.tokens, Variant.declared, List.flatMap_map]
          apply List.flatMap_congr
          intro entry _
          exact congrArg entry.2.marked (Slot.marks_dark breakpoint entry.1).symm

namespace Descriptor

theorem tokens_eq (descriptor : Descriptor) : descriptor.tokens = descriptor.classList := by
  have hdeclared : descriptor.tokens
      = descriptor.declared.flatMap fun entry => entry.2.marked entry.1.marks := by
    rw [tokens, declared, List.flatMap_assoc]
    apply List.flatMap_congr
    intro entry _
    rw [List.flatMap_assoc]
    exact List.flatMap_congr fun variant _ => variant.tokens_eq entry.1
  rw [hdeclared, classList]
  exact List.flatMap_congr fun entry _ => entry.2.marked_eq entry.1.marks

theorem media_addAll (descriptor more : Descriptor) :
    (descriptor.addAll more).media = descriptor.media ++ more.media := by
  obtain ⟨bundles⟩ := more
  have hfold : ∀ grown : Descriptor,
      (bundles.foldl (fun grown (breakpoint, styles) => grown.addMedia breakpoint styles)
        grown).media = grown.media ++ bundles := by
    induction bundles with
    | nil => exact fun grown => (List.append_nil _).symm
    | cons bundle rest ih =>
        intro grown
        rw [List.foldl_cons, ih]
        exact List.append_assoc _ _ _
  exact hfold descriptor

/-- What is added later is declared later. -/
theorem classList_addAll (descriptor more : Descriptor) :
    (descriptor.addAll more).classList = descriptor.classList ++ more.classList := by
  simp only [classList, declared, media_addAll, List.flatMap_append]

theorem isWord_of_mem_tokens {descriptor : Descriptor} {token : String}
    (htoken : token ∈ descriptor.tokens) : IsWord token := by
  rw [← descriptor.wordsOf_resolve] at htoken
  exact isWord_of_mem_wordsOf htoken

end Descriptor

/-- **The class string spells what is declared.** Its words are single spaces apart, they are exactly
the words of the styles in effect behind the marks of their slots, and the bundles of another
descriptor that are added go on with the words of that one. -/
theorem resolve_spells (descriptor : Descriptor) :
    IsSingleSpaced descriptor.resolve.toList
      ∧ wordsOf descriptor.resolve = descriptor.classList
      ∧ ∀ more, wordsOf (descriptor.addAll more).resolve
          = wordsOf descriptor.resolve ++ wordsOf more.resolve := by
  have hwords (declaring : Descriptor) : wordsOf declaring.resolve = declaring.classList := by
    rw [declaring.wordsOf_resolve, declaring.tokens_eq]
  refine ⟨?_, hwords descriptor, ?_⟩
  · exact isSingleSpaced_joinWords fun token htoken => Descriptor.isWord_of_mem_tokens htoken
  · intro more
    rw [hwords, hwords, hwords, Descriptor.classList_addAll]

/-- Two bundles of one breakpoint; a style that selects nothing leaves no mark behind. -/
example : Descriptor.resolve ⟨[(.medium, ⟨[.state .hover (.conditional [("a\u3000 b", true), ("c", false)]),
      .dark (.states [(.focus, .classes " "), (.static, .classes "d")])]⟩),
    (.medium, ⟨[.dark (.style (.classes "\te"))]⟩)]⟩
    = "md:hover:a md:hover:b md:dark:d md:dark:e" := by decide

end UtilityClasses
