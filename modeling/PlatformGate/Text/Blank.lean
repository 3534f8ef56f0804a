/-!
White space, and the operations on text that depend on it: trimming and the folding of runs.
Texts are lists of characters here; `trim` is the same operation on a `String`.
-/

namespace PlatformGate.Text

/-- White space of all scripts, with the four information separators U+001C to U+001F. -/
def isBlank (c : Char) : Bool :=
  let n := c.toNat
  (9 ≤ n && n ≤ 13) || (28 ≤ n && n ≤ 32) || n == 0x85 || n == 0xA0 || n == 0x1680 ||
    (0x2000 ≤ n && n ≤ 0x200A) || n == 0x2028 || n == 0x2029 || n == 0x202F ||
    n == 0x205F || n == 0x3000

def skipBlank (text : List Char) : List Char := text.dropWhile isBlank

theorem skipBlank_length_le (text : List Char) : (skipBlank text).length ≤ text.length :=
  (List.dropWhile_suffix isBlank).length_le

def dropEndWhile (test : Char → Bool) : List Char → List Char
  | [] => []
  | c :: rest =>
    match dropEndWhile test rest with
    | [] => if test c then [] else [c]
    | d :: kept => c :: d :: kept

def trimmed (text : List Char) : List Char := dropEndWhile isBlank (skipBlank text)

def trim (text : String) : String := String.ofList (trimmed text.toList)

def foldRuns (inRun : Bool) : List Char → List Char
  | [] => []
  | c :: rest =>
    if isBlank c then
      if inRun then foldRuns true rest else ' ' :: foldRuns true rest
    else c :: foldRuns false rest

def squeeze (text : List Char) : List Char := foldRuns false (trimmed text)

end PlatformGate.Text
