import PlatformGate.Manifest
import PlatformGate.SourceFile
import PlatformGate.Summary

/-!
From a manifest to the generated file: every entry is generated by itself, and the results are put
together in manifest order.
-/

namespace PlatformGate

structure Generation where
  outputs : List EntryOutput
  source : String
  deriving DecidableEq, Repr

namespace Generation

inductive Failure where
  | manifest (error : Manifest.Error)
  | usage (mistake : UsageError)
  deriving DecidableEq, Repr

def outputsOf (entries : List Entry) : Except UsageError (List EntryOutput) :=
  entries.mapM Entry.generate

def itemCount (outputs : List EntryOutput) : Nat := (outputs.flatMap (·.items)).length

def diagnosticsOf (outputs : List EntryOutput) : List Diagnostic :=
  outputs.flatMap (·.diagnostics)

def ofRoot (label : String) (root : Markup.Element) : Except Failure Generation :=
  match Manifest.entries root with
  | .error error => .error (.manifest error)
  | .ok entries =>
    match outputsOf entries with
    | .error mistake => .error (.usage mistake)
    | .ok outputs =>
      match SourceFile.assemble label outputs with
      | .error mistake => .error (.usage mistake)
      | .ok source => .ok ⟨outputs, source⟩

def diagnostics (generation : Generation) : List Diagnostic := diagnosticsOf generation.outputs

def reports (label : String) (diagnostics : List Diagnostic) : Except UsageError (List String) :=
  diagnostics.mapM (·.checkedReport label)

end Generation

end PlatformGate
