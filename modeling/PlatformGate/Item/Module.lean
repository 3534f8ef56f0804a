import PlatformGate.Declaration
import PlatformGate.Resolution
import PlatformGate.Text.Split

/-!
Modules per platform: the module that holds a platform's code, with the visibility that was asked
for, and a private alias that gives it the portable name.
-/

namespace PlatformGate

structure PlatformModule where
  guard : String
  visibility : String
  moduleName : String
  attributes : List String
  deriving DecidableEq, Repr

structure ModuleAlias where
  guard : String
  moduleName : String
  name : String
  attributes : List String
  deriving DecidableEq, Repr

namespace PlatformModule

def lines (item : PlatformModule) : List String :=
  renderCfg item.guard :: item.attributes ++
    [Text.joinWords [item.visibility, "mod", item.moduleName] ++ ";"]

end PlatformModule

namespace ModuleAlias

def lines (item : ModuleAlias) : List String :=
  renderCfg item.guard :: item.attributes ++
    ["use " ++ item.moduleName ++ " as " ++ item.name ++ ";"]

end ModuleAlias

def absoluteUseMessage : String :=
  "Platform modules do not support absolute paths (leading `::`). Please use a local identifier"

def useShapeMessage (tree : UseTree) : String :=
  "Platform modules on `use` declarations only support simple direct aliases " ++
    "(e.g., `use name;`); found " ++ tree.shape.keyword ++ " `" ++ tree.text ++ "`"

def unsafeModuleMessage : String := "Platform modules do not support `unsafe` modules"

def inlineModuleMessage : String :=
  "Platform modules do not support inline modules with a body `\x7b ... \x7d`. " ++
    "Please use a declaration like `mod name;` to allow swapping the file " ++
    "based on the platform."

def UseDecl.portableName (decl : UseDecl) : Except Diagnostic String :=
  if decl.tree.leadingColons then .error ⟨absoluteUseMessage, decl.location⟩
  else if decl.tree.shape = .name then .ok decl.tree.text
  else .error ⟨useShapeMessage decl.tree, decl.location⟩

def ModuleDecl.portableName (decl : ModuleDecl) : Except Diagnostic String :=
  if decl.isUnsafe then .error ⟨unsafeModuleMessage, decl.location⟩
  else if decl.inlineBody.isSome then .error ⟨inlineModuleMessage, decl.location⟩
  else .ok decl.name

def modulePair (visibility : String) (attributes : List String) (name : String)
    (platform : Platform) : PlatformModule × ModuleAlias :=
  let guard := renderGuard [platform]
  (⟨guard, visibility, platform.moduleName, attributes⟩,
    ⟨guard, platform.moduleName, name, attributes⟩)

end PlatformGate
