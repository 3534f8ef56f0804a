import PlatformGate.Declaration.Signature

/-!
The call that makes up the body of a forwarding wrapper: `Self::<name>_impl` with the type and
const parameters of the signature and the names of its arguments.
-/

namespace PlatformGate

structure ForwardCall where
  target : String
  genericArgs : List String
  args : List String
  awaited : Bool
  unsafeScope : Bool
  statement : Bool
  deriving DecidableEq, Repr

namespace ForwardCall

def turbofish (call : ForwardCall) : String :=
  if call.genericArgs.isEmpty then "" else "::" ++ angleList call.genericArgs

def expression (call : ForwardCall) : String :=
  call.target ++ call.turbofish ++ "(" ++ ", ".intercalate call.args ++ ")" ++
    (if call.awaited then ".await" else "") ++ (if call.statement then ";" else "")

/-- An unsafe scope encloses the whole call, the semicolon included. -/
def render (call : ForwardCall) : String :=
  if call.unsafeScope then "unsafe \x7b " ++ call.expression ++ " \x7d" else call.expression

end ForwardCall

def implSuffix : String := "_impl"

def implName (name suffix : String) : String := name ++ suffix

def patternMessage (pattern : String) : String :=
  "Complex patterns in arguments are not supported: give the argument a name; found `" ++
    pattern ++ "`"

def variadicMessage (variadic : Variadic) : String :=
  "Variadic arguments are not permitted; found `" ++ variadic.render ++ "`"

namespace Signature

def forwardedArgs (signature : Signature) : List String :=
  (signature.receiver.map fun _ => "self").toList ++
    (signature.params.filter (·.isSimple)).map (·.pattern)

def patternDiagnostics (signature : Signature) : List Diagnostic :=
  (signature.params.filter (!·.isSimple)).map fun param =>
    ⟨patternMessage param.pattern, param.location⟩

def forwardCall (signature : Signature) : ForwardCall :=
  { target := "Self::" ++ implName signature.name implSuffix
    genericArgs := signature.generics.forwardedArgs
    args := signature.forwardedArgs
    awaited := signature.isAsync
    unsafeScope := signature.isUnsafe
    statement := signature.output.isNone }

end Signature

end PlatformGate
