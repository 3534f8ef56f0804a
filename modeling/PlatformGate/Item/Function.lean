import PlatformGate.Declaration
import PlatformGate.Item.ForwardCall
import PlatformGate.Resolution
import PlatformGate.Text.Lines

/-!
Functions under a guard. A function with a body is kept as it is; a signature becomes a wrapper
that forwards to the platform's own implementation, unless it takes variadic arguments.
-/

namespace PlatformGate

structure GuardedFn where
  guard : String
  decl : Callable
  forward : Option ForwardCall
  deriving DecidableEq, Repr

def Callable.variadicDiagnostics (decl : Callable) : List Diagnostic :=
  (decl.signature.variadic.map fun v => ⟨variadicMessage v, v.location⟩).toList

namespace GuardedFn

/-- The guarded form of a function, with what is wrong with it. A pattern that cannot be passed on
leaves the wrapper in place, a variadic does not. -/
def ofCallable (decl : Callable) (guard : String) : Option GuardedFn × List Diagnostic :=
  if decl.body.isSome then (some ⟨guard, decl, none⟩, [])
  else
    let diagnostics := decl.signature.patternDiagnostics ++ decl.variadicDiagnostics
    if decl.signature.variadic.isSome then (none, diagnostics)
    else (some ⟨guard, decl, some decl.signature.forwardCall⟩, diagnostics)

def ofTraitMethod (decl : Callable) (guard : String) : GuardedFn := ⟨guard, decl, none⟩

def body (item : GuardedFn) : List String :=
  let signature := item.decl.signature.render item.decl.visibility
  match item.forward, item.decl.body with
  | some call, _ => [signature ++ " \x7b", "    " ++ call.render, "\x7d"]
  | none, some block => Text.splitLines (signature ++ " " ++ block)
  | none, none => [signature ++ ";"]

def lines (item : GuardedFn) : List String :=
  renderCfg item.guard :: item.decl.attributes ++ item.body

end GuardedFn

end PlatformGate
