import PlatformGate.Declaration.Signature
import PlatformGate.Declaration.UseTree

/-!
Declarations that can be made platform-dependent: functions and methods, structs, modules and
`use` declarations, each with its visibility, its attributes and its place.
-/

namespace PlatformGate

/-- A function or method. Without a body it is a signature that asks for a forwarding wrapper;
a body is the block in braces as written. -/
structure Callable where
  signature : Signature
  visibility : String
  attributes : List String
  body : Option String
  location : Location
  deriving DecidableEq, Repr

structure StructDecl where
  name : String
  visibility : String
  attributes : List String
  generics : Generics
  body : String
  location : Location
  deriving DecidableEq, Repr

structure ModuleDecl where
  name : String
  visibility : String
  attributes : List String
  isUnsafe : Bool
  inlineBody : Option String
  location : Location
  deriving DecidableEq, Repr

structure UseDecl where
  tree : UseTree
  visibility : String
  attributes : List String
  location : Location
  deriving DecidableEq, Repr

inductive Declaration where
  | callable (decl : Callable)
  | struct (decl : StructDecl)
  | module (decl : ModuleDecl)
  | use (decl : UseDecl)
  deriving DecidableEq, Repr

def Declaration.name : Declaration → String
  | callable decl => decl.signature.name
  | struct decl => decl.name
  | module decl => decl.name
  | use decl => decl.tree.text

end PlatformGate
