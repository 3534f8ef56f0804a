import PlatformGate.Manifest.Attribute

/-!
Declarations from manifest elements. A missing place is that of the enclosing element, blank
texts count as missing, and the first fault in the order of reading is the one reported.
-/

namespace PlatformGate.Manifest

open Markup

def genericParam (element : Element) (enclosing : Location) : Except Error GenericParam := do
  let location ← locationOf element enclosing
  let keyword ← required element "kind" location
  match GenericKind.ofKeyword? keyword with
  | none => .error ⟨.unknownGenericKind keyword, location⟩
  | some kind =>
    let constType ←
      if kind = .const then some <$> required element "type" location else pure none
    let name ← required element "name" location
    return {
      kind
      name
      bounds := Text.splitList '+' ((element.attribute? "bounds").getD "")
      constType
      default := element.attribute? "default" }

def generics (element : Element) (location : Location) : Except Error Generics := do
  let params ← (element.childrenNamed "generic").mapM (genericParam · location)
  return ⟨params, element.textsOf "where"⟩

/-- A receiver without a type is a reference unless the element says otherwise. -/
def receiver (element : Element) (enclosing : Location) : Except Error Receiver := do
  let location ← locationOf element enclosing
  let type := element.attribute? "type"
  let reference ←
    if (element.attribute? "ref").isSome then flag element "ref" location else pure type.isNone
  let mutable ← flag element "mut" location
  return ⟨reference, mutable, element.attribute? "lifetime", type⟩

def patternOf (element : Element) : String :=
  match (element.attribute? "name").getD "" with
  | "" => (element.attribute? "pattern").getD ""
  | name => name

def parameter (element : Element) (enclosing : Location) : Except Error Parameter := do
  let location ← locationOf element enclosing
  let pattern := patternOf element
  if pattern = "" then .error ⟨.namelessParameter, location⟩
  else
    let type ← required element "type" location
    let mutable ← flag element "mut" location
    let byRef ← flag element "ref" location
    return ⟨Text.trim pattern, type, mutable, byRef, location⟩

def variadic (element : Element) (enclosing : Location) : Except Error Variadic := do
  let location ← locationOf element enclosing
  return ⟨element.attribute? "name", location⟩

def optional {α : Type} (read : Element → Except Error α) :
    Option Element → Except Error (Option α)
  | none => .ok none
  | some element => some <$> read element

def signature (element : Element) (location : Location) : Except Error Signature := do
  let receiver ← optional (receiver · location) (element.child? "receiver")
  let params ← (element.childrenNamed "param").mapM (parameter · location)
  let variadic ← optional (variadic · location) (element.child? "variadic")
  let output := (element.child? "returns").map Element.trimmedText
  let name ← required element "name" location
  let generics ← generics element location
  let isAsync ← flag element "async" location
  let isUnsafe ← flag element "unsafe" location
  let isConst ← flag element "const" location
  return {
    name
    generics
    receiver
    params
    variadic
    output := output.filter (· ≠ "")
    isAsync
    isUnsafe
    isConst
    abi := element.attribute? "abi" }

def bodyOf (element : Element) (blank : String) : Option String :=
  (element.child? "body").map fun body =>
    match body.trimmedText with
    | "" => blank
    | text => text

def emptyBlock : String := "\x7b\x7d"

def callable (element : Element) (location : Location) : Except Error Callable := do
  let signature ← signature element location
  return {
    signature
    visibility := element.trimmedAttribute "vis"
    attributes := element.textsOf "attr"
    body := bodyOf element emptyBlock
    location }

def struct (element : Element) (location : Location) : Except Error StructDecl := do
  let name ← required element "name" location
  let generics ← generics element location
  return {
    name
    visibility := element.trimmedAttribute "vis"
    attributes := element.textsOf "attr"
    generics
    body := (bodyOf element ";").getD ";"
    location }

def module (element : Element) (location : Location) : Except Error ModuleDecl := do
  let name ← required element "name" location
  let isUnsafe ← flag element "unsafe" location
  return {
    name
    visibility := element.trimmedAttribute "vis"
    attributes := element.textsOf "attr"
    isUnsafe
    inlineBody := bodyOf element emptyBlock
    location }

def use (element : Element) (location : Location) : Except Error UseDecl := do
  let text ← required element "tree" location
  match UseTree.parse text with
  | .error mistake => .error ⟨.useTree mistake, location⟩
  | .ok tree =>
    return {
      tree
      visibility := element.trimmedAttribute "vis"
      attributes := element.textsOf "attr"
      location }

def declaration (kind : EntryKind) (element : Element) (location : Location) :
    Except Error Declaration :=
  match kind with
  | .function => .callable <$> callable element location
  | .traitFunction => .callable <$> callable element location
  | .struct => .struct <$> struct element location
  | .module => .module <$> module element location
  | .use => .use <$> use element location
  | .unknown tag => .error ⟨.unknownElement tag, location⟩

end PlatformGate.Manifest
