import PlatformGate.Options.Clause
import PlatformGate.Resolution

/-!
Option blocks: what the clauses of an option text say together. Clauses accumulate in any order;
a text that includes no group includes all platforms.
-/

namespace PlatformGate

open Options

/-- The groups are in keyword order, each once, and some group is included. The traits are in the
order of the text. -/
structure OptionBlock where
  included : List Group
  excluded : List Group
  traits : List String
  location : Location
  deriving DecidableEq, Repr

namespace OptionBlock

def includedBy : Clause → List Group
  | .includes groups => groups
  | _ => []

def excludedBy : Clause → List Group
  | .excludes groups => groups
  | _ => []

def traitsBy : Clause → List String
  | .traits paths => paths
  | _ => []

def ofClauses (clauses : List Clause) (location : Location) : OptionBlock :=
  let included := clauses.flatMap includedBy
  { included := if included.isEmpty then [.all] else Group.normalize included
    excluded := Group.normalize (clauses.flatMap excludedBy)
    traits := clauses.flatMap traitsBy
    location }

def parse (text : String) (traitsAllowed : Bool) (location : Location) :
    Except Diagnostic OptionBlock :=
  let chars := text.toList
  match readClauses traitsAllowed chars with
  | .done clauses _ => .ok (ofClauses clauses location)
  | .failed fault place _ =>
    .error ⟨fault.message, location.advance chars (chars.length - place.length)⟩

def resolve (block : OptionBlock) : Resolution :=
  Resolution.ofGroups block.included block.excluded block.location

end OptionBlock

end PlatformGate
