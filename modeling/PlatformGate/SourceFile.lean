import PlatformGate.Entry
import PlatformGate.Text.Lines

/-!
The generated source file: a header, then the lines of each entry behind a blank line. An entry
that has no lines takes no space.
-/

namespace PlatformGate.SourceFile

def border : String := "// x-------------------------------------------x //"

def headerLines (label : String) (entries : Int) : List String :=
  [border,
    "// | Platform-gated declarations for Rust",
    "// | Generated by platgen",
    "// | Source: " ++ label,
    "// | Entries: " ++ toString entries,
    border]

/-- The header of the file. The manifest has to have a name to be cited by. -/
def header (label : String) (entries : Int) : Except UsageError (List String) :=
  if label = "" then .error .emptySourceLabel else .ok (headerLines label entries)

def sectionLines (output : EntryOutput) : List String :=
  if output.lines.isEmpty then [] else "" :: output.lines

def assemble (label : String) (outputs : List EntryOutput) : Except UsageError String :=
  match header label outputs.length with
  | .error mistake => .error mistake
  | .ok top => .ok (Text.endLines (top ++ outputs.flatMap sectionLines))

end PlatformGate.SourceFile
