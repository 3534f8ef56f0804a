import PlatformGate.Markup.OuterToken
import PlatformGate.Markup.Value

/-!
The stages of a document type: what may come next in front of the root element, and what has to be
kept until then.
-/

namespace PlatformGate.Markup

structure Slot where
  element : List Char
  name : TagName
  deriving DecidableEq, Repr

abbrev Connector := Option Char

/-- What may come next in front of the root element. The name of a parameter entity is not kept. -/
inductive Stage where
  | outside (typed : Bool)
  | typeName
  | typeSource
  | typePublic
  | typeSystem
  | typeBody
  | typeEnd
  | subset
  | entityName
  | parameterName
  | entityValue (entity : Option (List Char))
  | entityPublic (entity : Option (List Char))
  | entitySystem (entity : Option (List Char))
  | entityEnd (entity : Option (List Char))
  | entityFormat (entity : List Char)
  | formatName
  | formatSource
  | formatPublic
  | formatSystem
  | formatEnd
  | listElement
  | listAttribute (element : List Char)
  | attributeType (slot : Slot)
  | choice (slot : Slot) (formats : Bool)
  | choiceMore (slot : Slot) (formats : Bool)
  | formatChoice (slot : Slot)
  | attributeDefault (slot : Slot) (tokenized identifying : Bool)
  | fixedDefault (slot : Slot) (tokenized : Bool)
  | elementName
  | elementContent
  | contentFirst
  | mixed
  | mixedName
  | mixedMore
  | member (groups : List Connector)
  | memberMore (groups : List Connector)
  | declarationEnd
  deriving DecidableEq, Repr

abbrev Advance := Except InnerFailure (Stage × Definitions)

def TagName.ofWritten (written : List Char) : TagName :=
  match written.dropWhile (· != ':') with
  | _ :: stem => ⟨some (written.takeWhile (· != ':')), stem⟩
  | [] => ⟨none, written⟩

def OuterToken.strayFault : OuterToken → Fault
  | parameterEntity => .parameterEntity
  | declaration _ => .misplacedDeclaration
  | _ => .strayToken

def OuterToken.refused (token : OuterToken) : Advance := .error ⟨token.strayFault, none⟩

def OuterToken.tagName? : OuterToken → Option (List Char)
  | word .plain text => some text
  | word .qualified text => some text
  | _ => none

def OuterToken.plainName? : OuterToken → Option (List Char)
  | word .plain text => some text
  | _ => none

def OuterToken.keyword? (token : OuterToken) : Option String := token.plainName?.map String.ofList

def OuterToken.literal? : OuterToken → Option (List Char)
  | literal text => some text
  | _ => none

def Stage.isOutside : Stage → Bool
  | outside _ => true
  | _ => false

end PlatformGate.Markup
