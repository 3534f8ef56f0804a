import PlatformGate.Entry
import PlatformGate.Text.Quoted

/-!
What can be wrong with a manifest that is well-formed markup, and how it is reported: with its
place in front, unless no place was stated.
-/

namespace PlatformGate.Manifest

inductive Fault where
  | wrongRoot (tag : String)
  | unknownElement (tag : String)
  | nonInteger (tag lead : String)
  | missingAttribute (tag name : String)
  | notBoolean (tag name value : String)
  | unknownGenericKind (kind : String)
  | namelessParameter
  | useTree (mistake : UsageError)
  deriving DecidableEq, Repr

def Fault.message : Fault → String
  | wrongRoot tag => "Expected <manifest> root element, got <" ++ tag ++ ">"
  | unknownElement tag =>
    "Unknown declaration element <" ++ tag ++ ">; expected one of: " ++
      ", ".intercalate (EntryKind.known.map EntryKind.tag)
  | nonInteger tag lead => "<" ++ tag ++ "> has non-integer " ++ lead ++ "line/" ++ lead ++ "column"
  | missingAttribute tag name => "<" ++ tag ++ "> is missing required attribute '" ++ name ++ "'"
  | notBoolean tag name value =>
    "<" ++ tag ++ "> attribute '" ++ name ++ "' must be true or false, got " ++ Text.quoted value
  | unknownGenericKind kind => "Unknown generic kind " ++ Text.quoted kind
  | namelessParameter => "<param> needs a 'name' or 'pattern' attribute"
  | useTree mistake => mistake.message

structure Error where
  fault : Fault
  location : Location
  deriving DecidableEq, Repr

def Error.render (error : Error) : String :=
  if error.location = .unstated then error.fault.message
  else error.location.render ++ ": " ++ error.fault.message

end PlatformGate.Manifest
