import PlatformGate.Markup.Charset.Basic
import PlatformGate.UsageError

/-!
Ends of a run that nothing provides for. They are no outcomes: there is a message, but neither an
output nor a code.
-/

namespace PlatformGate.Command

/-- Two hyphens right behind the equals sign of an option give it nothing, which leaves no path and
no text of options. -/
inductive Breakdown where
  | usage (mistake : UsageError)
  | charset (fault : Markup.CharsetFault)
  | noInputPath
  | noOutputPath
  | noOptionText
  | nulInPath
  deriving DecidableEq, Repr

def Breakdown.message : Breakdown → String
  | usage mistake => mistake.message
  | charset fault => fault.message
  | noInputPath => "'list' object has no attribute 'exists'"
  | noOutputPath => "expected str, bytes or os.PathLike object, not list"
  | noOptionText => "'list' object has no attribute 'strip'"
  | nulInPath => "embedded null byte"

end PlatformGate.Command
