import PlatformGate.Command.Arguments
import PlatformGate.Command.Breakdown
import PlatformGate.Command.FileSystem
import PlatformGate.OptionBlock

/-!
What a run is to do, decided from the arguments: to generate a file from a manifest, or to answer
a question about the platforms. The two cannot be combined.
-/

namespace PlatformGate.Command

inductive ConfigCode where
  | missingInput
  | missingOutput
  | pathNotFound
  | conflictGenerateDiscovery
  | invalidOptions
  deriving DecidableEq, Repr

namespace ConfigCode

def all : List ConfigCode :=
  [missingInput, missingOutput, pathNotFound, conflictGenerateDiscovery, invalidOptions]

def name : ConfigCode → String
  | missingInput => "MISSING_INPUT"
  | missingOutput => "MISSING_OUTPUT"
  | pathNotFound => "PATH_NOT_FOUND"
  | conflictGenerateDiscovery => "CONFLICT_GENERATE_DISCOVERY"
  | invalidOptions => "INVALID_OPTIONS"

def ofName (name : String) : Except UsageError ConfigCode :=
  match all.find? (·.name == name) with
  | some code => .ok code
  | none => .error (.unknownConfigCode name)

end ConfigCode

structure ConfigError where
  code : ConfigCode
  message : String
  suggestion : Option String
  deriving DecidableEq, Repr

/-- What to do. A generation without an output path goes as far as it can without one. -/
inductive Config where
  | generate (input : Path) (output : Option Path)
  | listPlatforms
  | resolve (optionsText : String)
  deriving DecidableEq, Repr

namespace ConfigError

def conflict : ConfigError :=
  ⟨.conflictGenerateDiscovery, "Generate flags cannot be combined with discovery flags.",
    some "Choose either --input/--output or one of --list-platforms, --resolve."⟩

def invalidOptions (problem : Diagnostic) : ConfigError :=
  ⟨.invalidOptions, "Invalid option block: " ++ problem.message,
    some ("Use include(...) and exclude(...) with: " ++
      ", ".intercalate (Group.table.map Group.keyword) ++ ".")⟩

def missingInput : ConfigError :=
  ⟨.missingInput, "Generate mode requires --input.",
    some "Pass --input /path/to/decls.xml, or use --list-platforms / --resolve."⟩

def missingOutput : ConfigError :=
  ⟨.missingOutput, "Generate mode requires --output.",
    some "Pass --output /path/to/platform_gen.rs."⟩

def orElse (suggestion : Option String) (general : String) : Option String :=
  match suggestion.getD "" with
  | "" => some general
  | text => some text

def noPath (flag : String) (suggestion : Option String) : ConfigError :=
  ⟨.pathNotFound, flag ++ " is required: no path provided.",
    orElse suggestion ("Pass the path explicitly: " ++ flag ++ " /path/to/resource")⟩

def absentPath (flag : String) (path : Path) (suggestion : Option String) : ConfigError :=
  ⟨.pathNotFound, "Path for " ++ flag ++ " does not exist: " ++ path.render,
    orElse suggestion "Provide an existing path for this flag."⟩

def render (error : ConfigError) : String :=
  "Config error [" ++ error.code.name ++ "]: " ++ error.message ++ "\n" ++
    (match error.suggestion.getD "" with
      | "" => ""
      | hint => "Hint: " ++ hint ++ "\n")

end ConfigError

variable {m : Type → Type} [Monad m]

def requirePath (files : FileSystem m) (path : Option Path) (flag : String)
    (suggestion : Option String) : m (Except ConfigError Path) := do
  match path with
  | none => return .error (.noPath flag suggestion)
  | some path =>
    if ← files.pathExists path then return .ok path
    else return .error (.absentPath flag path suggestion)

inductive Refusal where
  | config (error : ConfigError)
  | breakdown (cause : Breakdown)
  deriving DecidableEq, Repr

def Given.text? : Given → Option String
  | text value => some value
  | nothing => none

/-- What the arguments ask for without regard to files: the paths of a generation, or all of a
question. Only a path that is one is in the way of a question. -/
def Arguments.intent (arguments : Arguments) : Except Refusal Config :=
  let generates :=
    (arguments.input.bind Given.text?).isSome || (arguments.output.bind Given.text?).isSome
  let asks := arguments.listPlatforms || arguments.resolve.isSome
  if generates && asks then .error (.config .conflict)
  else if arguments.listPlatforms then .ok .listPlatforms
  else
    match arguments.resolve with
    | some .nothing => .error (.breakdown .noOptionText)
    | some (.text text) =>
      match OptionBlock.parse text false .unstated with
      | .error problem => .error (.config (.invalidOptions problem))
      | .ok _ => .ok (.resolve text)
    | none =>
      match arguments.input, arguments.output with
      | none, _ => .error (.config .missingInput)
      | some _, none => .error (.config .missingOutput)
      | some .nothing, some _ => .error (.breakdown .noInputPath)
      | some (.text input), some output =>
        .ok (.generate (Path.ofString input) (output.text?.map Path.ofString))

def Arguments.config (files : FileSystem m) (arguments : Arguments) :
    m (Except Refusal Config) := do
  match arguments.intent with
  | .ok (.generate input output) =>
    match ← requirePath files (some input) "--input"
        (some "Point --input at an existing declaration manifest (XML).") with
    | .error error => return .error (.config error)
    | .ok input => return .ok (.generate input output)
  | other => return other

end PlatformGate.Command
