import PlatformGate.Declaration
import PlatformGate.Resolution
import PlatformGate.Text.Lines

/-!
Structs under a guard, an alias of the struct for each platform, and the assertion that the struct
implements the traits asked for.
-/

namespace PlatformGate

open Text

structure GuardedStruct where
  guard : String
  decl : StructDecl
  deriving DecidableEq, Repr

structure TypeAlias where
  guard : String
  visibility : String
  name : String
  generics : Generics
  target : String
  attributes : List String
  deriving DecidableEq, Repr

structure TraitAssertion where
  guard : String
  traits : List String
  checkParams : List String
  wherePredicates : List String
  checkedType : String
  deriving DecidableEq, Repr

namespace GuardedStruct

def definition (item : GuardedStruct) : String :=
  let decl := item.decl
  let head := joinWords [decl.visibility, "struct", decl.name] ++
    renderParams decl.generics.params true true
  let predicates := renderWhere decl.generics.wherePredicates
  let body := trimmed decl.body.toList
  if body.head? = some '(' then
    head ++ String.ofList (dropEndWhile (· == ';') body) ++ predicates ++ ";"
  else if body = [';'] then head ++ predicates ++ ";"
  else head ++ predicates ++ " " ++ String.ofList body

def lines (item : GuardedStruct) : List String :=
  renderCfg item.guard :: item.decl.attributes ++ splitLines item.definition

end GuardedStruct

def isDeprecation (attr : String) : Bool :=
  match trimmed attr.toList with
  | '#' :: '[' :: rest =>
    let inner := skipBlank rest
    "deprecated".toList.isPrefixOf inner && beginsOutsideWord (inner.drop "deprecated".length)
  | _ => false

def deprecations (attributes : List String) : List String := attributes.filter isDeprecation

namespace TypeAlias

def ofStruct (decl : StructDecl) (platform : Platform) : TypeAlias :=
  { guard := renderGuard [platform]
    visibility := decl.visibility
    name := decl.name ++ platform.aliasSuffix
    generics := ⟨decl.generics.params.map GenericParam.plain, []⟩
    target := decl.generics.usage decl.name false
    attributes := deprecations decl.attributes }

def lines (item : TypeAlias) : List String :=
  renderCfg item.guard :: item.attributes ++
    [joinWords [item.visibility, "type", item.name] ++
      renderParams item.generics.params false false ++ " = " ++ item.target ++ ";"]

end TypeAlias

namespace TraitAssertion

/-- The assertion for a struct, if there is a trait to check. The check is generic in the type and
const parameters of the struct, with their bounds. -/
def ofStruct (decl : StructDecl) (traits : List String) (guard : String) : Option TraitAssertion :=
  if traits.isEmpty then none
  else some
    { guard
      traits
      checkParams := (decl.generics.params.filter (!·.isLifetime)).map (·.render true false)
      wherePredicates := decl.generics.wherePredicates
      checkedType := decl.generics.usage decl.name true }

def lines (item : TraitAssertion) : List String :=
  [renderCfg item.guard,
    "const _: () = \x7b",
    "    fn _assert_traits<T: " ++ " + ".intercalate (item.traits ++ ["?Sized"]) ++ ">() \x7b\x7d",
    "    fn _check" ++ angleList item.checkParams ++ "()" ++ renderWhere item.wherePredicates ++
      " \x7b _assert_traits::<" ++ item.checkedType ++ ">(); \x7d",
    "\x7d;"]

end TraitAssertion

end PlatformGate
