import PlatformGate.Identifier
import PlatformGate.Text.Digit
import PlatformGate.Text.Quoted
import PlatformGate.Text.Split

/-!
The arguments of the command line. First each word is classified by its form alone; then the words
are taken in order. A long option may be shortened as long as it stays unambiguous, and may have
its value behind an equals sign. What is neither an option nor a value is reported at the end.
-/

namespace PlatformGate.Command

open Text

inductive Flag where
  | help
  | input
  | output
  | listPlatforms
  | resolve
  deriving DecidableEq, Repr

namespace Flag

def spellings : List (String × Flag) :=
  [("-h", help), ("--help", help), ("--input", input), ("--output", output),
    ("--list-platforms", listPlatforms), ("--resolve", resolve)]

def title : Flag → String
  | help => "-h/--help"
  | input => "--input"
  | output => "--output"
  | listPlatforms => "--list-platforms"
  | resolve => "--resolve"

def takesValue : Flag → Bool
  | help => false
  | listPlatforms => false
  | _ => true

end Flag

inductive Word where
  | plain (text : String)
  | separator
  | option (flag : Flag) (short : Bool) (value : Option String)
  | unknown (text : String)
  deriving DecidableEq, Repr

inductive ArgumentFault where
  | ambiguous (word : String) (candidates : List String)
  | missingValue (flag : Flag)
  | surplusValue (flag : Flag) (value : String)
  | conflict (flag earlier : Flag)
  | unrecognized (words : List String)
  deriving DecidableEq, Repr

def ArgumentFault.message : ArgumentFault → String
  | ambiguous word candidates =>
    "ambiguous option: " ++ word ++ " could match " ++ ", ".intercalate candidates
  | missingValue flag => "argument " ++ flag.title ++ ": expected one argument"
  | surplusValue flag value =>
    "argument " ++ flag.title ++ ": ignored explicit argument " ++ quoted value
  | conflict flag earlier =>
    "argument " ++ flag.title ++ ": not allowed with argument " ++ earlier.title
  | unrecognized words => "unrecognized arguments: " ++ " ".intercalate words

/-- Digits, or digits with a point that has digits behind it, and a minus sign in front. One line
feed may follow. -/
def isNegativeNumber (text : List Char) : Bool :=
  let isDigit := fun c => (digitValue? c).isSome
  match dropFinalLineFeed text with
  | '-' :: number =>
    match number.dropWhile isDigit with
    | [] => number ≠ []
    | '.' :: fraction => fraction ≠ [] && fraction.all isDigit
    | _ => false
  | _ => false

def splitValue (text : List Char) : List Char × Option (List Char) :=
  match text.dropWhile (· != '=') with
  | [] => (text, none)
  | _ :: value => (text.takeWhile (· != '='), some value)

def candidates (text : List Char) : List (String × Word) :=
  match text with
  | '-' :: '-' :: _ =>
    let (stem, value) := splitValue text
    (Flag.spellings.filter fun spelling => stem.isPrefixOf spelling.1.toList).map
      fun (name, flag) => (name, .option flag false (value.map String.ofList))
  | '-' :: 'h' :: value => [("-h", .option .help true (some (String.ofList value)))]
  | _ => []

def exactOption? (text : List Char) : Option Word :=
  let short := !"--".toList.isPrefixOf text
  match Flag.spellings.lookup (String.ofList text) with
  | some flag => some (.option flag short none)
  | none =>
    match splitValue text with
    | (name, some value) =>
      (Flag.spellings.lookup (String.ofList name)).map fun flag =>
        .option flag short (some (String.ofList value))
    | _ => none

/-- The class of a word in front of any separator. A lone hyphen, a negative number and a word
with a space in it are taken for values. -/
def classify (word : String) : Except ArgumentFault Word :=
  let text := word.toList
  if text.head? ≠ some '-' ∨ text = ['-'] then .ok (.plain word)
  else
    match exactOption? text with
    | some option => .ok option
    | none =>
      match candidates text with
      | [(_, option)] => .ok option
      | [] =>
        .ok (if isNegativeNumber text ∨ text.contains ' ' then .plain word else .unknown word)
      | several => .error (.ambiguous word (several.map (·.1)))

def classifyAll : List String → Except ArgumentFault (List Word)
  | [] => .ok []
  | "--" :: rest => .ok (.separator :: rest.map .plain)
  | word :: rest => do
    let first ← classify word
    return first :: (← classifyAll rest)

inductive Given where
  | text (value : String)
  | nothing
  deriving DecidableEq, Repr

def Given.ofAttached (value : String) : Given := if value = "--" then .nothing else .text value

structure Arguments where
  input : Option Given
  output : Option Given
  listPlatforms : Bool
  resolve : Option Given
  deriving DecidableEq, Repr

namespace Arguments

def empty : Arguments := ⟨none, none, false, none⟩

def conflict? (arguments : Arguments) : Flag → Option Flag
  | .listPlatforms => if arguments.resolve.isSome then some .resolve else none
  | .resolve => if arguments.listPlatforms then some .listPlatforms else none
  | _ => none

def set (arguments : Arguments) (flag : Flag) (value : Given) : Arguments :=
  match flag with
  | .help => arguments
  | .input => { arguments with input := some value }
  | .output => { arguments with output := some value }
  | .listPlatforms => { arguments with listPlatforms := true }
  | .resolve => { arguments with resolve := some value }

end Arguments

inductive Request where
  | help
  | run (arguments : Arguments)
  deriving DecidableEq, Repr

/-- What a value directly behind an option without value means: one that is short may be followed
by other short options, of which there is only the same one. -/
def surplusFault? (flag : Flag) (short : Bool) (value : String) : Option ArgumentFault :=
  if short then
    match value.toList.dropWhile (· == 'h') with
    | [] => if value = "" then some (.surplusValue flag value) else none
    | rest => some (.surplusValue flag (String.ofList rest))
  else some (.surplusValue flag value)

def takeWords (arguments : Arguments) (extras : List String) :
    List Word → Except ArgumentFault Request
  | [] =>
    if extras.isEmpty then .ok (.run arguments) else .error (.unrecognized extras.reverse)
  | .plain text :: rest => takeWords arguments (text :: extras) rest
  | .unknown text :: rest => takeWords arguments (text :: extras) rest
  | .separator :: rest => takeWords arguments ("--" :: extras) rest
  | .option flag short value :: rest =>
    if flag.takesValue then
      match value, rest with
      | some value, rest =>
        match arguments.conflict? flag with
        | some earlier => .error (.conflict flag earlier)
        | none => takeWords (arguments.set flag (.ofAttached value)) extras rest
      | none, .plain value :: rest =>
        match arguments.conflict? flag with
        | some earlier => .error (.conflict flag earlier)
        | none => takeWords (arguments.set flag (.text value)) extras rest
      | none, _ => .error (.missingValue flag)
    else
      match value.bind (surplusFault? flag short) with
      | some fault => .error fault
      | none =>
        if flag = .help then .ok .help
        else
          match arguments.conflict? flag with
          | some earlier => .error (.conflict flag earlier)
          | none => takeWords (arguments.set flag .nothing) extras rest

def Request.ofWords (words : List String) : Except ArgumentFault Request := do
  takeWords Arguments.empty [] (← classifyAll words)

def usage : String :=
  "usage: platgen [-h] [--input INPUT] [--output OUTPUT]\n" ++
  "               [--list-platforms | --resolve RESOLVE]\n"

def helpText : String :=
  usage ++ "\n" ++
  "Generate platform-gated Rust declarations\n\n" ++
  "options:\n" ++
  "  -h, --help         show this help message and exit\n" ++
  "  --input INPUT\n" ++
  "  --output OUTPUT\n" ++
  "  --list-platforms\n" ++
  "  --resolve RESOLVE\n"

end PlatformGate.Command
