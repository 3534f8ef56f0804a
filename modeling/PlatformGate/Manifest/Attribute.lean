import PlatformGate.Manifest.Error
import PlatformGate.Markup.Element
import PlatformGate.Text.Integer

/-!
Attributes of manifest elements: places, required texts and truth values.
-/

namespace PlatformGate.Manifest

open Markup

def coordinate? : Option String → Option Int
  | none => some 0
  | some text => if text = "" then some 0 else Text.integer? text

/-- The place that the attributes `line` and `column` state, their names led in by `lead`, if
there is either of them. -/
def statedLocation (element : Element) (lead : String) : Except Error (Option Location) :=
  let line := element.attribute? (lead ++ "line")
  let column := element.attribute? (lead ++ "column")
  if line.isNone ∧ column.isNone then .ok none
  else
    match coordinate? line, coordinate? column with
    | some line, some column => .ok (some ⟨line, column⟩)
    | _, _ => .error ⟨.nonInteger element.tag lead, .unstated⟩

def locationOf (element : Element) (enclosing : Location) : Except Error Location := do
  return (← statedLocation element "").getD enclosing

def required (element : Element) (name : String) (location : Location) : Except Error String :=
  match element.trimmedAttribute name with
  | "" => .error ⟨.missingAttribute element.tag name, location⟩
  | value => .ok value

def flag (element : Element) (name : String) (location : Location) : Except Error Bool :=
  match element.attribute? name with
  | none => .ok false
  | some value =>
    if value = "true" ∨ value = "1" then .ok true
    else if value = "false" ∨ value = "0" then .ok false
    else .error ⟨.notBoolean element.tag name value, location⟩

end PlatformGate.Manifest
