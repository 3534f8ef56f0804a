import PlatformGate.Item
import PlatformGate.OptionBlock
import PlatformGate.Text.Literal

/-!
Manifest entries and what is generated from one: its items and its diagnostics. An option text
that cannot be read leaves the entry without items and with one diagnostic; every other problem is
reported beside the items that can still be generated.
-/

namespace PlatformGate

inductive EntryKind where
  | function
  | traitFunction
  | struct
  | module
  | use
  | unknown (tag : String)
  deriving DecidableEq, Repr

namespace EntryKind

def known : List EntryKind := [function, traitFunction, struct, module, use]

def tag : EntryKind → String
  | function => "function"
  | traitFunction => "trait-function"
  | struct => "struct"
  | module => "mod"
  | use => "use"
  | unknown tag => tag

def ofTag (tag : String) : EntryKind := (known.find? (·.tag == tag)).getD (unknown tag)

end EntryKind

structure Entry where
  kind : EntryKind
  optionsText : String
  optionsLocation : Location
  declaration : Declaration
  deriving DecidableEq, Repr

structure EntryOutput where
  kind : EntryKind
  name : String
  items : List Item
  diagnostics : List Diagnostic
  deriving DecidableEq, Repr

namespace Entry

def options (entry : Entry) : Except Diagnostic OptionBlock :=
  OptionBlock.parse entry.optionsText (entry.kind == .struct) entry.optionsLocation

/-- The items that a declaration of the given kind turns into on the resolved platforms. A kind
that does not go with the declaration is a mistake of the caller, but a module entry and a `use`
entry may each hold the other's declaration. -/
def generateItems (kind : EntryKind) (declaration : Declaration) (traits : List String)
    (resolution : Resolution) : Except UsageError (List Item × List Diagnostic) :=
  match kind, declaration with
  | .function, .callable decl =>
    let (item, diagnostics) := GuardedFn.ofCallable decl resolution.guard
    .ok (item.toList.map Item.function, diagnostics)
  | .traitFunction, .callable decl =>
    .ok ([.function (GuardedFn.ofTraitMethod decl resolution.guard)], [])
  | .struct, .struct decl => .ok (Item.ofStruct decl traits resolution, [])
  | .module, .module decl => .ok (Item.ofModule decl resolution.platforms)
  | .module, .use decl => .ok (Item.ofUse decl resolution.platforms)
  | .use, .module decl => .ok (Item.ofModule decl resolution.platforms)
  | .use, .use decl => .ok (Item.ofUse decl resolution.platforms)
  | kind, _ => .error (.unknownEntryKind kind.tag)

def generate (entry : Entry) : Except UsageError EntryOutput :=
  let name := entry.declaration.name
  match entry.options with
  | .error diagnostic => .ok ⟨entry.kind, name, [], [diagnostic]⟩
  | .ok block =>
    let resolution := block.resolve
    match generateItems entry.kind entry.declaration block.traits resolution with
    | .error mistake => .error mistake
    | .ok (items, diagnostics) =>
      .ok ⟨entry.kind, name, items, resolution.diagnostic.toList ++ diagnostics⟩

end Entry

def Diagnostic.compileError (diagnostic : Diagnostic) : String :=
  "compile_error!(" ++ Text.literal diagnostic.message ++ ");"

def Diagnostic.report (diagnostic : Diagnostic) (label : String) : String :=
  label ++ ":" ++ diagnostic.location.render ++ ": error: " ++ diagnostic.message

/-- The report, if the numbers of the location can be written. A number that a manifest states
always can; counting on from one may lead to one that is too long. -/
def Diagnostic.checkedReport (diagnostic : Diagnostic) (label : String) :
    Except UsageError String :=
  if diagnostic.location.isWritable then .ok (diagnostic.report label) else .error .excessiveDigits

namespace EntryOutput

def blocks (output : EntryOutput) : List (List String) :=
  (if output.diagnostics.isEmpty then [] else [output.diagnostics.map (·.compileError)]) ++
    output.items.map Item.lines

def lines (output : EntryOutput) : List String := [""].intercalate output.blocks

end EntryOutput

end PlatformGate
