/-!
Faults of form in a markup document, with the reason and the place that are reported for them.
Lines count from one and columns from zero, and a carriage return with a line feed is one line
end.
-/

namespace PlatformGate.Markup

inductive Fault where
  | noElement
  | mismatchedTag
  | junkAfterRoot
  | invalidToken
  | partialCharacter
  | strayToken
  | duplicateAttribute
  | undefinedEntity
  | unreadEntity (name : List Char)
  | recursiveEntity
  | asynchronousEntity
  | binaryEntity
  | externalEntity
  | parameterEntity
  | excessiveExpansion
  | invalidCharacterNumber
  | invalidPublicId
  | unboundNamespace
  | undeclaredNamespace
  | reservedXml
  | reservedXmlns
  | reservedNamespace
  | unclosedToken
  | unclosedCharacterData
  | misplacedDeclaration
  | malformedDeclaration
  | incorrectEncoding
  | unknownEncoding
  deriving DecidableEq, Repr

/-- The longest beginning of the text whose characters take no more than `room` bytes. A character
that the end of the room divides leaves its mark. -/
def clip (room : Nat) : List Char → List Char
  | [] => []
  | c :: rest =>
    if c.utf8Size ≤ room then c :: clip (room - c.utf8Size) rest
    else if room = 0 then []
    else ['\ufffd']

def Fault.reason : Fault → String
  | noElement => "no element found"
  | mismatchedTag => "mismatched tag"
  | junkAfterRoot => "junk after document element"
  | invalidToken => "not well-formed (invalid token)"
  | partialCharacter => "partial character"
  | strayToken => "syntax error"
  | duplicateAttribute => "duplicate attribute"
  | undefinedEntity => "undefined entity"
  | unreadEntity name =>
    "undefined entity " ++ String.ofList (clip 100 ('&' :: name ++ [';']))
  | recursiveEntity => "recursive entity reference"
  | asynchronousEntity => "asynchronous entity"
  | binaryEntity => "reference to binary entity"
  | externalEntity => "reference to external entity in attribute"
  | parameterEntity => "illegal parameter entity reference"
  | excessiveExpansion =>
    "limit on input amplification factor (from DTD and entities) breached"
  | invalidCharacterNumber => "reference to invalid character number"
  | invalidPublicId => "illegal character(s) in public id"
  | unboundNamespace => "unbound prefix"
  | undeclaredNamespace => "must not undeclare prefix"
  | reservedXml =>
    "reserved prefix (xml) must not be undeclared or bound to another namespace name"
  | reservedXmlns => "reserved prefix (xmlns) must not be declared or undeclared"
  | reservedNamespace => "prefix must not be bound to one of the reserved namespace names"
  | unclosedToken => "unclosed token"
  | unclosedCharacterData => "unclosed CDATA section"
  | misplacedDeclaration => "XML or text declaration not at start of entity"
  | malformedDeclaration => "XML declaration not well-formed"
  | incorrectEncoding => "encoding specified in XML declaration is incorrect"
  | unknownEncoding => "unknown encoding"

structure Failure where
  fault : Fault
  place : List Char
  deriving DecidableEq, Repr

/-- A fault in a part of a token. Its place is an ending of the part; without one the fault is
reported for the whole token. -/
structure InnerFailure where
  fault : Fault
  place : Option (List Char)
  deriving DecidableEq, Repr

def InnerFailure.within (failure : InnerFailure) (token behind : List Char) : Failure :=
  ⟨failure.fault, match failure.place with
    | some place => place ++ behind
    | none => token⟩

def endPosition (line column : Nat) : List Char → Nat × Nat
  | [] => (line, column)
  | '\r' :: '\n' :: rest => endPosition (line + 1) 0 rest
  | '\r' :: rest => endPosition (line + 1) 0 rest
  | '\n' :: rest => endPosition (line + 1) 0 rest
  | _ :: rest => endPosition line (column + 1) rest

structure Error where
  fault : Fault
  line : Nat
  column : Nat
  deriving DecidableEq, Repr

namespace Error

def ofFailure (document : List Char) (failure : Failure) : Error :=
  let before := document.take (document.length - failure.place.length)
  let (line, column) := endPosition 1 0 before
  ⟨failure.fault, line, column⟩

def render (error : Error) : String :=
  error.fault.reason ++ ": line " ++ toString error.line ++ ", column " ++ toString error.column

end Error

end PlatformGate.Markup
