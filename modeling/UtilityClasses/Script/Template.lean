import UtilityClasses.Script.Cursor

/-!
Templates: text with expressions or types in between. Escapes must be right unless a tag takes the
text raw.
-/

namespace UtilityClasses.Script

/-- Refuses a stretch of text with a wrong escape, unless a tag takes it. -/
def refuseInvalid (part : TemplatePart) (tagged : Bool) : Parse Unit := do
  match part.cooked, tagged with
  | .invalid cause, false => throw cause
  | _, _ => return ()

/-- The rest of a template behind the opening of an interpolation, which `hole` reads. -/
def templateRest (hole : Parse Unit) (tagged : Bool) : Nat → Parse Unit
  | 0 => throw .unterminatedTemplate
  | fuel + 1 => do
    hole
    refuseUnreadable
    if !(← sees "\x7d") then unexpected "`\x7d`"
    let text := (← get).rest
    let (found, rest) := readTemplate (text.length + 1) [] none text
    resumeAt rest
    match found with
    | .error cause => throw cause
    | .ok part =>
      refuseInvalid part tagged
      if !part.ends then templateRest hole tagged fuel

/-- A template whose first stretch of text is the next token. Without interpolations it spells a
text. -/
def templateOf (hole : Parse Unit) (part : TemplatePart) (tagged : Bool) : Parse Expr := do
  bump
  refuseInvalid part tagged
  if part.ends then
    match part.cooked with
    | .units units => return .template (spellUnits units)
    | .invalid _ => return .dynamic .template []
  else
    templateRest hole tagged ((← get).here.length + 1)
    return .dynamic .template []

def template (inner : Inner) (part : TemplatePart) (tagged : Bool) : Parse Expr :=
  templateOf (awaitingNoColon <| allowingIn do let _ ← expression inner) part tagged

end UtilityClasses.Script
