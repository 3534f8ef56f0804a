import PlatformGate.Manifest
import PlatformGate.Proofs.UseTree

/-! The element that an entry is written as. Every field that has a value is spelled out, even where
the reader would fill it in by itself: the attributes of an element are a list of fields, and its
children are a list for each of the tags. -/

namespace PlatformGate

def Declaration.location : Declaration → Location
  | callable decl => decl.location
  | struct decl => decl.location
  | module decl => decl.location
  | use decl => decl.location

namespace Manifest

open Markup

def spelledOut (tag : String) (fields : List (String × Option String)) (children : List Element) :
    Element :=
  ⟨tag, fields.filterMap fun field => field.2.map (field.1, ·), none, children⟩

def textElement (tag text : String) : Element := ⟨tag, [], some text, []⟩

@[simp] theorem textElement_tag (tag text : String) : (textElement tag text).tag = tag := rfl

def truth (value : Bool) : String := if value then "true" else "false"

def placeFields (lead : String) (location : Location) : List (String × Option String) :=
  [(lead ++ "line", some (toString location.line)),
    (lead ++ "column", some (toString location.column))]

def genericElement (param : GenericParam) : Element :=
  spelledOut "generic"
    [("kind", some param.kind.keyword), ("name", some param.name),
      ("bounds", some (" + ".intercalate param.bounds)), ("type", param.constType),
      ("default", param.default)] []

def receiverElement (receiver : Receiver) : Element :=
  spelledOut "receiver"
    [("ref", some (truth receiver.reference)), ("mut", some (truth receiver.mutable)),
      ("lifetime", receiver.lifetime), ("type", receiver.type)] []

def parameterElement (param : Parameter) : Element :=
  spelledOut "param"
    ([("name", some param.pattern), ("type", some param.type), ("mut", some (truth param.mutable)),
      ("ref", some (truth param.byRef))] ++ placeFields "" param.location) []

def variadicElement (variadic : Variadic) : Element :=
  spelledOut "variadic" (("name", variadic.name) :: placeFields "" variadic.location) []

def genericsChildren (generics : Generics) : List Element :=
  generics.params.map genericElement ++ generics.wherePredicates.map (textElement "where")

def declarationFields : Declaration → List (String × Option String)
  | .callable decl =>
    [("name", some decl.signature.name), ("vis", some decl.visibility),
      ("async", some (truth decl.signature.isAsync)),
      ("unsafe", some (truth decl.signature.isUnsafe)),
      ("const", some (truth decl.signature.isConst)), ("abi", decl.signature.abi)]
  | .struct decl => [("name", some decl.name), ("vis", some decl.visibility)]
  | .module decl =>
    [("name", some decl.name), ("vis", some decl.visibility),
      ("unsafe", some (truth decl.isUnsafe))]
  | .use decl => [("tree", some decl.tree.written), ("vis", some decl.visibility)]

def declarationChildren : Declaration → List Element
  | .callable decl =>
    decl.attributes.map (textElement "attr") ++ genericsChildren decl.signature.generics ++
      decl.signature.receiver.toList.map receiverElement ++
      decl.signature.params.map parameterElement ++
      decl.signature.variadic.toList.map variadicElement ++
      decl.signature.output.toList.map (textElement "returns") ++
      decl.body.toList.map (textElement "body")
  | .struct decl =>
    decl.attributes.map (textElement "attr") ++ genericsChildren decl.generics ++
      [textElement "body" decl.body]
  | .module decl =>
    decl.attributes.map (textElement "attr") ++ decl.inlineBody.toList.map (textElement "body")
  | .use decl => decl.attributes.map (textElement "attr")

/-- The element that stands for the entry. Its own place is that of the declaration. -/
def entryElement (entry : Entry) : Element :=
  spelledOut entry.kind.tag
    (("options", some entry.optionsText) :: placeFields "options-" entry.optionsLocation ++
      placeFields "" entry.declaration.location ++ declarationFields entry.declaration)
    (declarationChildren entry.declaration)

def manifestElement (entries : List Entry) : Element :=
  spelledOut rootTag [] (entries.map entryElement)

section

variable {tag name : String} {fields : List (String × Option String)} {children : List Element}

@[simp] theorem attribute?_spelledOut_nil :
    (spelledOut tag [] children).attribute? name = none := rfl

@[simp] theorem attribute?_spelledOut_cons {field : String} {value : Option String} :
    (spelledOut tag ((field, value) :: fields) children).attribute? name =
      if field = name then value.or ((spelledOut tag fields children).attribute? name)
      else (spelledOut tag fields children).attribute? name := by
  cases value with
  | none => simp [spelledOut, Element.attribute?]
  | some value =>
    by_cases same : field = name
    · simp [spelledOut, Element.attribute?, same]
    · simp [spelledOut, Element.attribute?, List.lookup_cons, same, beq_false_of_ne (Ne.symm same)]

end

theorem childrenNamed_spelledOut (tag : String) (fields : List (String × Option String))
    (children : List Element) (child : String) :
    (spelledOut tag fields children).childrenNamed child = children.filter (·.tag == child) := rfl

theorem filter_map_of_tag {α : Type} (write : α → Element) {tag : String}
    (h : ∀ value, (write value).tag = tag) (values : List α) (child : String) :
    (values.map write).filter (·.tag == child) = if tag = child then values.map write else [] := by
  induction values with
  | nil => simp
  | cons value values ih =>
    rw [List.map_cons, List.filter_cons, h, ih]
    by_cases same : tag = child <;> simp [same]

@[simp] theorem filter_textElement (tag child : String) (texts : List String) :
    (texts.map (textElement tag)).filter (·.tag == child) =
      if tag = child then texts.map (textElement tag) else [] :=
  filter_map_of_tag (textElement tag) (fun _ => rfl) texts child

@[simp] theorem filter_genericElement (child : String) (params : List GenericParam) :
    (params.map genericElement).filter (·.tag == child) =
      if "generic" = child then params.map genericElement else [] :=
  filter_map_of_tag genericElement (fun _ => rfl) params child

@[simp] theorem filter_receiverElement (child : String) (receivers : List Receiver) :
    (receivers.map receiverElement).filter (·.tag == child) =
      if "receiver" = child then receivers.map receiverElement else [] :=
  filter_map_of_tag receiverElement (fun _ => rfl) receivers child

@[simp] theorem filter_parameterElement (child : String) (params : List Parameter) :
    (params.map parameterElement).filter (·.tag == child) =
      if "param" = child then params.map parameterElement else [] :=
  filter_map_of_tag parameterElement (fun _ => rfl) params child

@[simp] theorem filter_variadicElement (child : String) (variadics : List Variadic) :
    (variadics.map variadicElement).filter (·.tag == child) =
      if "variadic" = child then variadics.map variadicElement else [] :=
  filter_map_of_tag variadicElement (fun _ => rfl) variadics child

end Manifest

end PlatformGate
