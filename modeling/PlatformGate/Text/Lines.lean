/-!
Division of a text into lines. A line ends at any of the line and paragraph boundaries below, a
carriage return with a line feed counts as one of them, and a boundary at the end of the text
does not open another line.
-/

namespace PlatformGate.Text

/-- Line feed, carriage return, vertical tab, form feed, U+001C to U+001E, U+0085 and the two
Unicode separators. -/
def isLineEnd (c : Char) : Bool :=
  let n := c.toNat
  (10 ≤ n && n ≤ 13) || (28 ≤ n && n ≤ 30) || n == 0x85 || n == 0x2028 || n == 0x2029

def consLine (c : Char) : List (List Char) → List (List Char)
  | [] => [[c]]
  | line :: lines => (c :: line) :: lines

def lines : List Char → List (List Char)
  | [] => []
  | '\r' :: '\n' :: rest => [] :: lines rest
  | c :: rest => if isLineEnd c then [] :: lines rest else consLine c (lines rest)

def splitLines (text : String) : List String := (lines text.toList).map String.ofList

def endLines (texts : List String) : String := String.join (texts.map (· ++ "\n"))

end PlatformGate.Text
