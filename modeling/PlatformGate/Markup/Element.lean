import PlatformGate.Text.Blank

/-!
Elements of a markup document, as far as a manifest uses them: the tag, the attributes, the
character data in front of the first child, and the children.
-/

namespace PlatformGate.Markup

structure Element where
  tag : String
  attributes : List (String × String)
  text : Option String
  children : List Element
  deriving Repr

namespace Element

def attribute? (element : Element) (name : String) : Option String :=
  element.attributes.lookup name

def trimmedAttribute (element : Element) (name : String) : String :=
  Text.trim ((element.attribute? name).getD "")

def childrenNamed (element : Element) (tag : String) : List Element :=
  element.children.filter (·.tag == tag)

def child? (element : Element) (tag : String) : Option Element :=
  element.children.find? (·.tag == tag)

def trimmedText (element : Element) : String := Text.trim (element.text.getD "")

def textsOf (element : Element) (tag : String) : List String :=
  ((element.childrenNamed tag).map trimmedText).filter (· ≠ "")

end Element

end PlatformGate.Markup
