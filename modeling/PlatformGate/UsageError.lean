import PlatformGate.Text.Quoted

/-!
Requests that make no sense or ask too much, as opposed to faults in a manifest: each is a mistake
of whoever calls the library, and none is located. Declarations and items are closed types, so no
function of the library reports `unsupportedDeclaration` or `unformattableItem`: they are there for
callers that decode either from a name.
-/

namespace PlatformGate

inductive UsageError where
  | unknownGroup (keyword : String)
  | unknownGenericKind (kind : String)
  | untypedConstGeneric (name : String)
  | unrecognizedUseTree (text : String)
  | unsupportedDeclaration (kind : String)
  | unformattableItem (kind : String)
  | unknownEntryKind (kind : String)
  | emptySourceLabel
  | unknownConfigCode (code : String)
  /-- A number is to be written that has more digits than may be written. -/
  | excessiveDigits
  deriving DecidableEq, Repr

def UsageError.message : UsageError → String
  | unknownGroup keyword => "Unknown platform group: " ++ keyword
  | unknownGenericKind kind => "Unknown generic parameter kind: " ++ kind
  | untypedConstGeneric name => "const generic '" ++ name ++ "' requires a const_type"
  | unrecognizedUseTree text => "Unrecognized use tree: " ++ Text.quoted text
  | unsupportedDeclaration kind => "Unsupported declaration type " ++ kind
  | unformattableItem kind => "No formatter for output item " ++ kind
  | unknownEntryKind kind => "Unknown entry kind: " ++ kind
  | emptySourceLabel => "source_label must not be empty"
  | unknownConfigCode code => "Unknown config error code: " ++ code
  | excessiveDigits =>
    "Exceeds the limit (4300 digits) for integer string conversion; " ++
      "use sys.set_int_max_str_digits() to increase the limit"

end PlatformGate
