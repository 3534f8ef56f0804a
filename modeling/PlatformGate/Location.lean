import PlatformGate.Text.Integer

/-!
Places in a source text. A line and a column are integers of any size and sign, since a manifest
may state any; `advance` moves a location over the beginning of a text that starts there.
-/

namespace PlatformGate

structure Location where
  line : Int
  column : Int
  deriving DecidableEq, Repr

namespace Location

def unstated : Location := ⟨0, 0⟩

def render (location : Location) : String :=
  toString location.line ++ ":" ++ toString location.column

def isWritable (location : Location) : Bool :=
  Text.isWritable location.line && Text.isWritable location.column

def lastLine (text : List Char) : List Char := (text.reverse.takeWhile (· != '\n')).reverse

/-- The location of the character at `index`, where the text starts at `start`. An index beyond
the end counts the missing characters as columns. -/
def advance (start : Location) (text : List Char) (index : Nat) : Location :=
  let before := text.take index
  let beyond := index - before.length
  let lineFeeds := before.count '\n'
  if lineFeeds = 0 then ⟨start.line, start.column + index⟩
  else ⟨start.line + lineFeeds, ((lastLine before).length + beyond : Nat)⟩

theorem advance_zero (start : Location) (text : List Char) : start.advance text 0 = start := by
  simp [advance]

end Location

structure Diagnostic where
  message : String
  location : Location
  deriving DecidableEq, Repr

end PlatformGate
