import PlatformGate.Text.Blank
import PlatformGate.Text.Lines

/-!
Parts of a text: the pieces between separators, the words put together with spaces, and the test
whether one text stands inside another.
-/

namespace PlatformGate.Text

/-- The pieces between the occurrences of the separator, of which there is one more. -/
def pieces (separator : Char) : List Char → List (List Char)
  | [] => [[]]
  | c :: rest =>
    if c = separator then [] :: pieces separator rest else consLine c (pieces separator rest)

def splitList (separator : Char) (text : String) : List String :=
  ((pieces separator text.toList).map trimmed).filter (· ≠ []) |>.map String.ofList

def joinWords (words : List String) : String := " ".intercalate (words.filter (· ≠ ""))

def hasPart (part : List Char) : List Char → Bool
  | [] => part.isEmpty
  | c :: rest => part.isPrefixOf (c :: rest) || hasPart part rest

end PlatformGate.Text
