import PlatformGate.Proofs.Manifest
import PlatformGate.Proofs.Text.Split

/-! What the texts and places of a loaded entry are like. Texts that may not be blank are trimmed,
the others are trimmed or kept as they stand, and every place can be written again. -/

namespace PlatformGate

open Text

def AllFilled (texts : List String) : Prop := ∀ text ∈ texts, Filled text

structure GenericParam.Loaded (param : GenericParam) : Prop where
  name : Filled param.name
  bounds : ∀ bound ∈ param.bounds, IsPart '+' bound
  typed : param.kind = .const ↔ param.constType.isSome
  constType : ∀ type ∈ param.constType, Filled type

structure Generics.Loaded (generics : Generics) : Prop where
  params : ∀ param ∈ generics.params, param.Loaded
  wherePredicates : AllFilled generics.wherePredicates

/-- A pattern may be all white space, and is empty then. -/
structure Parameter.Loaded (param : Parameter) : Prop where
  pattern : trim param.pattern = param.pattern
  type : Filled param.type
  location : param.location.isWritable = true

structure Signature.Loaded (signature : Signature) : Prop where
  name : Filled signature.name
  generics : signature.generics.Loaded
  params : ∀ param ∈ signature.params, param.Loaded
  variadic : ∀ variadic ∈ signature.variadic, variadic.location.isWritable = true
  output : ∀ type ∈ signature.output, Filled type

structure LoadedHead (visibility : String) (attributes : List String) (location : Location) :
    Prop where
  visibility : trim visibility = visibility
  attributes : AllFilled attributes
  location : location.isWritable = true

structure Callable.Loaded (decl : Callable) : Prop where
  head : LoadedHead decl.visibility decl.attributes decl.location
  signature : decl.signature.Loaded
  body : ∀ body ∈ decl.body, Filled body

structure StructDecl.Loaded (decl : StructDecl) : Prop where
  head : LoadedHead decl.visibility decl.attributes decl.location
  name : Filled decl.name
  generics : decl.generics.Loaded
  body : Filled decl.body

structure ModuleDecl.Loaded (decl : ModuleDecl) : Prop where
  head : LoadedHead decl.visibility decl.attributes decl.location
  name : Filled decl.name
  inlineBody : ∀ body ∈ decl.inlineBody, Filled body

structure UseDecl.Loaded (decl : UseDecl) : Prop where
  head : LoadedHead decl.visibility decl.attributes decl.location
  tree : ∃ text, UseTree.parse text = .ok decl.tree

def Declaration.Loaded : Declaration → Prop
  | callable decl => decl.Loaded
  | struct decl => decl.Loaded
  | module decl => decl.Loaded
  | use decl => decl.Loaded

structure Entry.Loaded (entry : Entry) : Prop where
  fits : entry.kind.Fits entry.declaration
  optionsLocation : entry.optionsLocation.isWritable = true
  declaration : entry.declaration.Loaded

end PlatformGate
