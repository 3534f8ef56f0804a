import PlatformGate.Manifest.Declaration

/-!
Manifests: a root element whose children are the entries, in order. An option text has a place of
its own, which is the place of the entry if it is not stated.
-/

namespace PlatformGate.Manifest

open Markup

def rootTag : String := "manifest"

def entry (element : Element) : Except Error Entry := do
  let location ← locationOf element .unstated
  match EntryKind.ofTag element.tag with
  | .unknown tag => .error ⟨.unknownElement tag, location⟩
  | kind =>
    let optionsLocation := (← statedLocation element "options-").getD location
    let declaration ← declaration kind element location
    return ⟨kind, (element.attribute? "options").getD "", optionsLocation, declaration⟩

def entries (root : Element) : Except Error (List Entry) :=
  if root.tag = rootTag then root.children.mapM entry
  else .error ⟨.wrongRoot root.tag, .unstated⟩

end PlatformGate.Manifest
