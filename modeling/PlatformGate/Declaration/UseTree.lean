import PlatformGate.Identifier
import PlatformGate.Text.Split
import PlatformGate.Text.Word
import PlatformGate.UsageError

/-!
The tree of a `use` declaration, classified by its shape. A shape is tested for in a fixed order,
so a group is a group whatever else stands in it.
-/

namespace PlatformGate

open Text

/-- The shape of a tree. One that is not known is kept, since it is reported by its keyword. -/
inductive UseShape where
  | name
  | path
  | rename
  | glob
  | group
  | unknown (keyword : String)
  deriving DecidableEq, Repr

namespace UseShape

def known : List UseShape := [name, path, rename, glob, group]

def keyword : UseShape → String
  | name => "name"
  | path => "path"
  | rename => "rename"
  | glob => "glob"
  | group => "group"
  | unknown keyword => keyword

def ofKeyword (keyword : String) : UseShape :=
  (known.find? (·.keyword == keyword)).getD (unknown keyword)

def classify (body : List Char) : Option UseShape :=
  if body.contains '\x7b' then some group
  else if body.getLast? = some '*' then some glob
  else if hasWholeWord "as".toList none body then some rename
  else if hasPart "::".toList body then some path
  else if isIdentifier (String.ofList body) then some name
  else none

end UseShape

structure UseTree where
  shape : UseShape
  text : String
  leadingColons : Bool
  deriving DecidableEq, Repr

def UseTree.parse (text : String) : Except UsageError UseTree :=
  let outer := trimmed text.toList
  let leadingColons := "::".toList.isPrefixOf outer
  let body := if leadingColons then trimmed (outer.drop 2) else outer
  match UseShape.classify body with
  | some shape => .ok ⟨shape, String.ofList body, leadingColons⟩
  | none => .error (.unrecognizedUseTree text)

end PlatformGate
