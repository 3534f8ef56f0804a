import PlatformGate.Declaration.Generics
import PlatformGate.Identifier
import PlatformGate.Location
import PlatformGate.Text.Literal

/-!
Function signatures: the `self` parameter, the typed parameters, the variadic, and the written
form of the whole.
-/

namespace PlatformGate

/-- The `self` parameter. With a type it is never written as a reference. -/
structure Receiver where
  reference : Bool
  mutable : Bool
  lifetime : Option String
  type : Option String
  deriving DecidableEq, Repr

def Receiver.render (receiver : Receiver) : String :=
  let mutability := if receiver.mutable then "mut " else ""
  match receiver.type with
  | some type => mutability ++ "self: " ++ type
  | none =>
    if receiver.reference then
      let lifetime := receiver.lifetime.getD ""
      "&" ++ (if lifetime = "" then "" else lifetime ++ " ") ++ mutability ++ "self"
    else mutability ++ "self"

structure Parameter where
  pattern : String
  type : String
  mutable : Bool
  byRef : Bool
  location : Location
  deriving DecidableEq, Repr

namespace Parameter

def isSimple (param : Parameter) : Bool := isIdentifier param.pattern

def render (param : Parameter) : String :=
  (if param.byRef then "ref " else "") ++ (if param.mutable then "mut " else "") ++
    param.pattern ++ ": " ++ param.type

end Parameter

structure Variadic where
  name : Option String
  location : Location
  deriving DecidableEq, Repr

def Variadic.render (variadic : Variadic) : String :=
  let name := variadic.name.getD ""
  if name = "" then "..." else name ++ ": ..."

structure Signature where
  name : String
  generics : Generics
  receiver : Option Receiver
  params : List Parameter
  variadic : Option Variadic
  output : Option String
  isAsync : Bool
  isUnsafe : Bool
  isConst : Bool
  abi : Option String
  deriving DecidableEq, Repr

namespace Signature

def qualifiers (signature : Signature) (visibility : String) : List String :=
  (if visibility = "" then [] else [visibility]) ++
  (if signature.isConst then ["const"] else []) ++
  (if signature.isAsync then ["async"] else []) ++
  (if signature.isUnsafe then ["unsafe"] else []) ++
  (signature.abi.map fun abi => "extern " ++ Text.literal abi).toList

def inputs (signature : Signature) : List String :=
  (signature.receiver.map Receiver.render).toList ++ signature.params.map Parameter.render ++
    (signature.variadic.map Variadic.render).toList

def render (signature : Signature) (visibility : String) : String :=
  " ".intercalate (signature.qualifiers visibility ++ ["fn", signature.name]) ++
    renderParams signature.generics.params true true ++
    "(" ++ ", ".intercalate signature.inputs ++ ")" ++
    (match signature.output with
      | some type => " -> " ++ type
      | none => "") ++
    renderWhere signature.generics.wherePredicates

end Signature

end PlatformGate
