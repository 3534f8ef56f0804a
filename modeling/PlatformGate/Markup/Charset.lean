import PlatformGate.Markup.Charset.Table

/-!
Character sets by name. The spelling of a name does not matter as to case and as to what stands
between its parts; a point may stand for an underscore in a name that is not a set's own.
-/

namespace PlatformGate.Markup

def unassigned : Char := '\x00'

def Coverage.characters? : Coverage → Option (List Char)
  | ascii except =>
    some ((List.range 256).map fun n =>
      let c := Char.ofNat n
      if n < 0x80 ∧ !except.contains c then c else unassigned)
  | latin => some ((List.range 256).map Char.ofNat)
  | page first characters =>
    some ((List.range first).map Char.ofNat ++
      characters.toList.map fun c => if c = '?' then unassigned else c)
  | _ => none

namespace Charset

/-- The letters, digits and points of a name in lower case, with one underscore for whatever else
stands between two of them. `between` says whether something else does. -/
def normalized (between : Bool) : List Char → List Char
  | [] => []
  | c :: rest =>
    if c.isAlphanum || c == '.' then
      let tail := c.toLower :: normalized false rest
      if between then '_' :: tail else tail
    else normalized true rest

def find? (name : List Char) : Option Charset :=
  let spelled := normalized false name
  let own := String.ofList spelled
  let pointless := String.ofList (spelled.map fun c => if c = '.' then '_' else c)
  match charsets.find? (·.aliases.contains own) with
  | some charset => some charset
  | none =>
    if spelled.contains '.' then charsets.find? (·.aliases.contains pointless)
    else charsets.find? (·.names.contains own)

def characters (name : List Char) : Except CharsetFault (Option (List Char)) :=
  let written := String.ofList name
  match find? name with
  | none => .error (.unknown written)
  | some charset =>
    match charset.coverage with
    | .textless => .error (.textless written)
    | .multiByte => .error .multiByte
    | .unforgiving => .error (.unforgiving written)
    | .asciiOnly => .error .asciiOnly
    | .undefined => .error (.undefined written)
    | coverage => .ok coverage.characters?

end Charset

end PlatformGate.Markup
