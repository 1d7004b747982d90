import UtilityClasses.Descriptor.Resolution
import UtilityClasses.Json.Value

/-!
Reading a loose value as a descriptor. Keys that are not known and values of the wrong type are left
out at every level.

An object under `dark` holds the styles of states when one of its keys names a state. Otherwise it is
a style by itself.
-/

namespace UtilityClasses

open UtilityClasses.Json (Value Fields)

def darkKey : String := "dark"

def Style.ofValue? : Value → Option Style
  | .text words => some (.classes words)
  | .object fields => some (.conditional (fields.map fun (key, value) => (key, value.isTruthy)))
  | _ => none

def namesState (fields : Fields) : Bool := fields.any fun (key, _) => (State.ofKey? key).isSome

def Dark.ofValue? (value : Value) : Option Dark :=
  match value with
  | .object fields =>
    if namesState fields then
      some (.states (fields.filterMap fun (key, entry) => do
        return (← State.ofKey? key, ← Style.ofValue? entry)))
    else (Style.ofValue? value).map .style
  | _ => (Style.ofValue? value).map .style

def Variant.ofField? (key : String) (value : Value) : Option Variant :=
  if key = darkKey then (Dark.ofValue? value).map .dark
  else do return .state (← State.ofKey? key) (← Style.ofValue? value)

def MediaStyles.ofValue? : Value → Option MediaStyles
  | .object fields => some ⟨fields.filterMap fun (key, value) => Variant.ofField? key value⟩
  | _ => none

def Descriptor.ofValue : Value → Descriptor
  | .object fields =>
    ⟨fields.filterMap fun (key, value) => do
      return (← Breakpoint.ofKey? key, ← MediaStyles.ofValue? value)⟩
  | _ => .empty

def resolveValue (value : Value) : String := (Descriptor.ofValue value).resolve

end UtilityClasses
