import PlatformGate.Item.Function
import PlatformGate.Item.Module
import PlatformGate.Item.Struct

/-!
Items of the generated file, what each kind of declaration generates, and the lines each item is
written in.
-/

namespace PlatformGate

inductive Item where
  | function (item : GuardedFn)
  | struct (item : GuardedStruct)
  | typeAlias (item : TypeAlias)
  | assertion (item : TraitAssertion)
  | module (item : PlatformModule)
  | moduleAlias (item : ModuleAlias)
  deriving DecidableEq, Repr

namespace Item

def lines : Item → List String
  | function item => item.lines
  | struct item => item.lines
  | typeAlias item => item.lines
  | assertion item => item.lines
  | module item => item.lines
  | moduleAlias item => item.lines

theorem lines_ne_nil (item : Item) : item.lines ≠ [] := by
  cases item <;> simp [lines, GuardedFn.lines, GuardedStruct.lines, TypeAlias.lines,
    TraitAssertion.lines, PlatformModule.lines, ModuleAlias.lines]

def ofStruct (decl : StructDecl) (traits : List String) (resolution : Resolution) : List Item :=
  struct ⟨resolution.guard, decl⟩ ::
    (resolution.platforms.map fun platform => typeAlias (TypeAlias.ofStruct decl platform)) ++
    ((TraitAssertion.ofStruct decl traits resolution.guard).map assertion).toList

def ofModulePair (pair : PlatformModule × ModuleAlias) : List Item :=
  [module pair.1, moduleAlias pair.2]

def ofPortable (portableName : Except Diagnostic String) (visibility : String)
    (attributes : List String) (platforms : List Platform) : List Item × List Diagnostic :=
  match portableName with
  | .ok name =>
    (platforms.flatMap fun p => ofModulePair (modulePair visibility attributes name p), [])
  | .error diagnostic => ([], [diagnostic])

def ofModule (decl : ModuleDecl) (platforms : List Platform) : List Item × List Diagnostic :=
  ofPortable decl.portableName decl.visibility decl.attributes platforms

def ofUse (decl : UseDecl) (platforms : List Platform) : List Item × List Diagnostic :=
  ofPortable decl.portableName decl.visibility decl.attributes platforms

end Item

end PlatformGate
