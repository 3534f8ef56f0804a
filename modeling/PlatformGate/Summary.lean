import PlatformGate.Entry
import PlatformGate.Text.Column

/-!
The report on a run: how many items of each kind were generated, how many diagnostics there are
and how long the file is.
-/

namespace PlatformGate

structure Counts where
  wrappers : Int
  conditionalFns : Int
  traitFns : Int
  structs : Int
  aliases : Int
  assertions : Int
  platformModules : Int
  diagnostics : Int
  deriving DecidableEq, Repr

/-- The rows of the report. The alias of a platform module is counted with its module. -/
inductive Category where
  | wrapper
  | conditionalFn
  | traitFn
  | struct
  | typeAlias
  | assertion
  | platformModule
  | moduleAlias
  deriving DecidableEq, Repr

def Item.category (item : Item) (kind : EntryKind) : Category :=
  match item with
  | function fn =>
    if fn.forward.isSome then .wrapper
    else if kind = .traitFunction then .traitFn
    else .conditionalFn
  | struct _ => .struct
  | typeAlias _ => .typeAlias
  | assertion _ => .assertion
  | module _ => .platformModule
  | moduleAlias _ => .moduleAlias

namespace EntryOutput

def categories (output : EntryOutput) : List Category :=
  output.items.map (·.category output.kind)

end EntryOutput

def Counts.ofOutputs (outputs : List EntryOutput) : Counts :=
  let categories := outputs.flatMap (·.categories)
  { wrappers := categories.count .wrapper
    conditionalFns := categories.count .conditionalFn
    traitFns := categories.count .traitFn
    structs := categories.count .struct
    aliases := categories.count .typeAlias
    assertions := categories.count .assertion
    platformModules := categories.count .platformModule
    diagnostics := (outputs.flatMap (·.diagnostics)).length }

structure Summary where
  label : String
  outputPath : String
  counts : Counts
  lineCount : Int
  deriving DecidableEq, Repr

namespace Summary

def row (label : String) (count : Int) : String :=
  "    " ++ Text.padRight 18 label ++ Text.padLeft 6 (toString count)

def diagnosticsRow (count : Int) : String :=
  "  Diagnostics: " ++ toString count ++ (if count = 0 then "" else " (see stderr)")

def lines (summary : Summary) : List String :=
  ["Platform declarations generated:",
    "",
    "  Source:     " ++ summary.label,
    "  Output:     " ++ summary.outputPath,
    "",
    "  Items generated:",
    row "Wrappers:" summary.counts.wrappers,
    row "Conditional fns:" summary.counts.conditionalFns,
    row "Trait fns:" summary.counts.traitFns,
    row "Structs:" summary.counts.structs,
    row "Type aliases:" summary.counts.aliases,
    row "Assertions:" summary.counts.assertions,
    row "Platform modules:" summary.counts.platformModules,
    "",
    diagnosticsRow summary.counts.diagnostics,
    "  Total: " ++ Text.thousands summary.lineCount ++ " lines"]

def render (summary : Summary) : String := Text.endLines summary.lines

end Summary

end PlatformGate
