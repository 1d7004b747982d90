import UtilityClasses.Text.Whitespace

/-!
Style descriptors: for every breakpoint a bundle of styles, one for each state an element can be in,
and among them the styles of the dark colour scheme.

A style is a text of classes, or a list of such texts each of which can be switched off.
-/

namespace UtilityClasses

inductive Breakpoint where
  | base
  | small
  | medium
  | large
  | extraLarge
  | doubleExtraLarge
  deriving DecidableEq, Repr, Inhabited

namespace Breakpoint

def all : List Breakpoint := [base, small, medium, large, extraLarge, doubleExtraLarge]

def key : Breakpoint → String
  | base => "base"
  | small => "sm"
  | medium => "md"
  | large => "lg"
  | extraLarge => "xl"
  | doubleExtraLarge => "2xl"

/-- What a class of the breakpoint begins with; the base has no mark of its own. -/
def mark : Breakpoint → String
  | base => ""
  | breakpoint => breakpoint.key ++ ":"

def ofKey? (key : String) : Option Breakpoint := all.find? fun breakpoint => breakpoint.key == key

end Breakpoint

inductive State where
  | static
  | hover
  | focus
  | active
  | visited
  | target
  | first
  | last
  | only
  | odd
  | even
  | empty
  | disabled
  | enabled
  | checked
  | indeterminate
  | default
  | required
  | valid
  | invalid
  | autofill
  deriving DecidableEq, Repr, Inhabited

namespace State

def all : List State :=
  [static, hover, focus, active, visited, target, first, last, only, odd, even, empty, disabled,
    enabled, checked, indeterminate, default, required, valid, invalid, autofill]

def key : State → String
  | static => "static"
  | hover => "hover"
  | focus => "focus"
  | active => "active"
  | visited => "visited"
  | target => "target"
  | first => "first"
  | last => "last"
  | only => "only"
  | odd => "odd"
  | even => "even"
  | empty => "empty"
  | disabled => "disabled"
  | enabled => "enabled"
  | checked => "checked"
  | indeterminate => "indeterminate"
  | default => "default"
  | required => "required"
  | valid => "valid"
  | invalid => "invalid"
  | autofill => "autofill"

/-- What a class of the state begins with; the static state has no mark. -/
def mark : State → String
  | static => ""
  | state => state.key ++ ":"

def ofKey? (key : String) : Option State := all.find? fun state => state.key == key

end State

inductive Style where
  | classes (text : String)
  | conditional (entries : List (String × Bool))
  deriving DecidableEq, Repr, Inhabited

def Style.tokens : Style → List String
  | .classes text => Text.wordsOf text
  | .conditional entries =>
    (entries.filter fun entry => entry.2).flatMap fun entry => Text.wordsOf entry.1

inductive Dark where
  | style (style : Style)
  | states (styles : List (State × Style))
  deriving DecidableEq, Repr, Inhabited

inductive Variant where
  | state (state : State) (style : Style)
  | dark (dark : Dark)
  deriving DecidableEq, Repr, Inhabited

structure MediaStyles where
  variants : List Variant
  deriving DecidableEq, Repr, Inhabited

namespace MediaStyles

def empty : MediaStyles := ⟨[]⟩

def addState (styles : MediaStyles) (state : State) (style : Style) : MediaStyles :=
  ⟨styles.variants ++ [.state state style]⟩

def addDark (styles : MediaStyles) (dark : Dark) : MediaStyles :=
  ⟨styles.variants ++ [.dark dark]⟩

end MediaStyles

structure Descriptor where
  media : List (Breakpoint × MediaStyles)
  deriving DecidableEq, Repr, Inhabited

namespace Descriptor

def empty : Descriptor := ⟨[]⟩

def addMedia (descriptor : Descriptor) (breakpoint : Breakpoint) (styles : MediaStyles) :
    Descriptor :=
  ⟨descriptor.media ++ [(breakpoint, styles)]⟩

def isEmpty (descriptor : Descriptor) : Bool := descriptor.media.isEmpty

end Descriptor

end UtilityClasses
