import PlatformGate.Text.Split

/-!
Paths of files. A path is kept as its components, so empty components and single dots vanish,
while two dots stay. Two slashes in front, but not three, are told from one.
-/

namespace PlatformGate.Command

open Text

structure Path where
  root : String
  parts : List String
  deriving DecidableEq, Repr

namespace Path

def rootOf : List Char → String
  | '/' :: '/' :: '/' :: _ => "/"
  | '/' :: '/' :: _ => "//"
  | '/' :: _ => "/"
  | _ => ""

def ofString (text : String) : Path :=
  { root := rootOf text.toList
    parts := ((pieces '/' text.toList).map String.ofList).filter fun part =>
      part ≠ "" ∧ part ≠ "." }

def render (path : Path) : String :=
  let text := path.root ++ "/".intercalate path.parts
  if text = "" then "." else text

def name (path : Path) : String := path.parts.getLast?.getD ""

def parent (path : Path) : Path := { path with parts := path.parts.dropLast }

def isAbsolute (path : Path) : Bool := path.root ≠ ""

end Path

end PlatformGate.Command
