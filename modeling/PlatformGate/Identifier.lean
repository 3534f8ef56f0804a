/-!
Identifiers of generated code. A name is a letter or underscore followed by letters, digits and
underscores, all of them ASCII; an identifier may have `r#` in front of its name.
-/

namespace PlatformGate

def isNameStart (c : Char) : Bool := c.isAlpha || c == '_'

def isNamePart (c : Char) : Bool := c.isAlphanum || c == '_'

def isName : List Char → Bool
  | [] => false
  | c :: rest => isNameStart c && rest.all isNamePart

def leadingName : List Char → List Char
  | [] => []
  | c :: rest => if isNameStart c then c :: rest.takeWhile isNamePart else []

def dropFinalLineFeed : List Char → List Char
  | [] => []
  | ['\n'] => []
  | c :: rest => c :: dropFinalLineFeed rest

def dropRawMark : List Char → List Char
  | 'r' :: '#' :: rest => rest
  | text => text

/-- An identifier may be followed by one line feed. The lone underscore is none. -/
def isIdentifier (text : String) : Bool :=
  text != "_" && isName (dropRawMark (dropFinalLineFeed text.toList))

theorem leadingName_isPrefix (text : List Char) : leadingName text <+: text := by
  cases text with
  | nil => exact List.nil_prefix
  | cons c rest =>
    simp only [leadingName]
    split
    · exact List.prefix_cons_inj c |>.mpr (List.takeWhile_prefix isNamePart)
    · exact List.nil_prefix

end PlatformGate
