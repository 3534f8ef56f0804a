import PlatformGate.Markup.Definitions
import PlatformGate.Markup.Tag

/-!
Namespaces: the bindings that the attributes of a start tag make, among them attributes that the
document type adds, and the expansion of names by the bindings in force. An expanded name is
written as the namespace between braces with the local name behind it.
-/

namespace PlatformGate.Markup

abbrev Scope := List (Option (List Char) × List Char)

def xmlQualifier : List Char := "xml".toList

def xmlnsQualifier : List Char := "xmlns".toList

def xmlNamespace : List Char := "http://www.w3.org/XML/1998/namespace".toList

def xmlnsNamespace : List Char := "http://www.w3.org/2000/xmlns/".toList

def Scope.outermost : Scope := [(some xmlQualifier, xmlNamespace)]

def expandedName (space stem : List Char) : List Char :=
  '\x7b' :: space ++ '\x7d' :: stem

def TagName.boundQualifier? (name : TagName) : Option (Option (List Char)) :=
  match name.qualifier with
  | none => if name.stem = xmlnsQualifier then some none else none
  | some qualifier => if qualifier = xmlnsQualifier then some (some name.stem) else none

/-- What is wrong with a binding: only the default may be unbound, and the two reserved namespaces
go with their qualifiers. -/
def bindingFault? (qualifier : Option (List Char)) (space : List Char) : Option Fault :=
  if qualifier.isSome ∧ space = [] then some .undeclaredNamespace
  else if qualifier = some xmlnsQualifier then some .reservedXmlns
  else if space.contains '\x7d' then some .strayToken
  else if qualifier = some xmlQualifier then
    if space = xmlNamespace then none else some .reservedXml
  else if space = xmlNamespace ∨ space = xmlnsNamespace then some .reservedNamespace
  else none

/-- The attributes of a start tag as far as they are known, in reverse order and without the
bindings, all names among them, and the scope with the bindings. -/
structure AttributeList where
  attributes : List (TagName × List Char)
  names : List TagName
  scope : Scope
  spent : Nat
  deriving DecidableEq, Repr

namespace AttributeList

def add (list : AttributeList) (name : TagName) (value : List Char) :
    Except Fault AttributeList :=
  let list := { list with names := name :: list.names }
  match name.boundQualifier? with
  | none => .ok { list with attributes := (name, value) :: list.attributes }
  | some qualifier =>
    match bindingFault? qualifier value with
    | some fault => .error fault
    | none => .ok { list with scope := (qualifier, value) :: list.scope }

def addWritten (evaluate : RawAttribute → Nat → Except InnerFailure (List Char × Nat))
    (tag : List Char) (list : AttributeList) (attr : RawAttribute) :
    Except Failure AttributeList :=
  if list.names.contains attr.name then .error ⟨.duplicateAttribute, attr.place⟩
  else
    match evaluate attr list.spent with
    | .error failure => .error (failure.within tag attr.behind)
    | .ok (value, spent) =>
      match { list with spent := spent }.add attr.name value with
      | .error fault => .error ⟨fault, tag⟩
      | .ok list => .ok list

def addRuled (list : AttributeList) (rule : AttributeRule) : Except Fault AttributeList :=
  match rule.value with
  | none => .ok list
  | some value => if list.names.contains rule.name then .ok list else list.add rule.name value

end AttributeList

def expand (scope : Scope) (unqualified : List Char) (name : TagName) :
    Except Fault (List Char) :=
  match name.qualifier with
  | none => .ok (if unqualified = [] then name.stem else expandedName unqualified name.stem)
  | some qualifier =>
    match scope.lookup (some qualifier) with
    | some space => .ok (expandedName space name.stem)
    | none => .error .unboundNamespace

def expandAttributes (scope : Scope) (seen : List (List Char)) :
    List (TagName × List Char) → Except Fault (List (String × String))
  | [] => .ok []
  | (name, value) :: later => do
    let expanded ← expand scope [] name
    if seen.contains expanded then .error .duplicateAttribute
    else
      let attributes ← expandAttributes scope (expanded :: seen) later
      return (String.ofList expanded, String.ofList value) :: attributes

end PlatformGate.Markup
