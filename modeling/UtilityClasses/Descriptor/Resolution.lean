import UtilityClasses.Descriptor.Basic

/-!
Resolution of a descriptor: every selected class with the marks of its breakpoint, of the dark scheme
and of its state in front, in the order of declaration.
-/

namespace UtilityClasses

def darkMark : String := "dark:"

/-- The tokens of a style with the marks that apply to it in front. -/
def Style.marked (style : Style) (marks : String) : List String :=
  style.tokens.map fun token => marks ++ token

def Variant.tokens (breakpoint : Breakpoint) : Variant → List String
  | .state condition style => style.marked (breakpoint.mark ++ condition.mark)
  | .dark (.style style) => style.marked (breakpoint.mark ++ darkMark)
  | .dark (.states styles) =>
    styles.flatMap fun (condition, style) =>
      style.marked (breakpoint.mark ++ darkMark ++ condition.mark)

namespace Descriptor

def tokens (descriptor : Descriptor) : List String :=
  descriptor.media.flatMap fun (breakpoint, styles) =>
    styles.variants.flatMap (Variant.tokens breakpoint)

def resolve (descriptor : Descriptor) : String := Text.joinWords descriptor.tokens

end Descriptor

end UtilityClasses
