import PlatformGate.UsageError

/-!
Generic parameters of declarations and the lists they appear in: with or without bounds and
defaults where they are declared, by name alone where the declared thing is used.
-/

namespace PlatformGate

inductive GenericKind where
  | lifetime
  | type
  | const
  deriving DecidableEq, Repr

namespace GenericKind

def all : List GenericKind := [lifetime, type, const]

def keyword : GenericKind → String
  | lifetime => "lifetime"
  | type => "type"
  | const => "const"

def ofKeyword? (keyword : String) : Option GenericKind := all.find? (·.keyword == keyword)

end GenericKind

/-- A generic parameter. A const parameter is written with its type and without bounds; on the
other kinds a type has no effect. -/
structure GenericParam where
  kind : GenericKind
  name : String
  bounds : List String
  constType : Option String
  default : Option String
  deriving DecidableEq, Repr

namespace GenericParam

def make (kind name : String) (bounds : List String) (constType default : Option String) :
    Except UsageError GenericParam :=
  match GenericKind.ofKeyword? kind with
  | none => .error (.unknownGenericKind kind)
  | some known =>
    if known = .const ∧ constType.getD "" = "" then .error (.untypedConstGeneric name)
    else .ok ⟨known, name, bounds, constType, default⟩

def isLifetime (param : GenericParam) : Bool := param.kind == .lifetime

def head (param : GenericParam) (withBounds : Bool) : String :=
  if param.kind = .const then "const " ++ param.name ++ ": " ++ param.constType.getD ""
  else if withBounds ∧ param.bounds ≠ [] then
    param.name ++ ": " ++ " + ".intercalate param.bounds
  else param.name

def render (param : GenericParam) (withBounds withDefault : Bool) : String :=
  match param.default with
  | some value =>
    if withDefault then param.head withBounds ++ " = " ++ value else param.head withBounds
  | none => param.head withBounds

def plain (param : GenericParam) : GenericParam := { param with bounds := [], default := none }

end GenericParam

def angleList (elements : List String) : String :=
  if elements.isEmpty then "" else "<" ++ ", ".intercalate elements ++ ">"

def renderParams (params : List GenericParam) (withBounds withDefault : Bool) : String :=
  angleList (params.map (·.render withBounds withDefault))

def renderWhere (predicates : List String) : String :=
  if predicates.isEmpty then "" else " where " ++ ", ".intercalate predicates

structure Generics where
  params : List GenericParam
  wherePredicates : List String
  deriving DecidableEq, Repr

namespace Generics

def empty : Generics := ⟨[], []⟩

def forwardedArgs (generics : Generics) : List String :=
  (generics.params.filter (!·.isLifetime)).map (·.name)

/-- A use of the declared name with its own parameters as arguments. A lifetime that is elided is
written as the placeholder. -/
def usage (generics : Generics) (name : String) (elideLifetimes : Bool) : String :=
  name ++ angleList (generics.params.map fun param =>
    if param.isLifetime && elideLifetimes then "'_" else param.name)

end Generics

end PlatformGate
