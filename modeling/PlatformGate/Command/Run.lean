import PlatformGate.Command.Config
import PlatformGate.Discovery
import PlatformGate.Generation
import PlatformGate.Markup.Document

/-!
A run of the command line: what it prints and the code it ends with. A run that generates reports
each stage as it is reached, so an error leaves the lines of the stages before it.
-/

namespace PlatformGate.Command

structure Outcome where
  code : Nat
  output : String
  errors : String
  deriving DecidableEq, Repr

inductive RunFault where
  | file (error : FileError)
  | markup (error : Markup.Error)
  | manifest (error : Manifest.Error)
  | breakdown (cause : Breakdown)
  deriving DecidableEq, Repr

def RunFault.message : RunFault → String
  | file error => error.render
  | markup error => error.render
  | manifest error => error.render
  | breakdown cause => cause.message

def stopped (printed : String) : RunFault → Except Breakdown Outcome
  | .breakdown cause => .error cause
  | fault => .ok ⟨1, printed ++ "Error: " ++ fault.message ++ "\n", ""⟩

def RunFault.ofReadError : Markup.ReadError → RunFault
  | .malformed error => markup error
  | .charset fault => breakdown (.charset fault)

def readManifest (content : Except FileError (List UInt8)) : Except RunFault (List Entry) :=
  match content with
  | .error error => .error (.file error)
  | .ok bytes =>
    match Markup.parseBytes bytes with
    | .error error => .error (.ofReadError error)
    | .ok root =>
      match Manifest.entries root with
      | .error error => .error (.manifest error)
      | .ok entries => .ok entries

def lineCount (text : String) : Nat := text.toList.count '\n'

def parsingLine (input : Path) : String := "Parsing: " ++ input.render ++ "\n"

def entriesLine (entries : List Entry) : String :=
  "  Entries: " ++ toString entries.length ++ "\n"

def generatedLine (outputs : List EntryOutput) : String :=
  "  Generated: " ++ toString (Generation.itemCount outputs) ++ " items, " ++
    toString (Generation.diagnosticsOf outputs).length ++ " diagnostics\n"

def writtenLine (lines : Nat) (path : String) : String :=
  "  Written: " ++ toString lines ++ " lines to " ++ path ++ "\n"

variable {m : Type → Type} [Monad m]

def writeOutput (files : FileSystem m) (output : Option Path) (source : String) :
    m (Except RunFault Path) := do
  match output with
  | none => return .error (.breakdown .noOutputPath)
  | some output =>
    if output.render.toList.contains '\x00' then return .error (.breakdown .nulInPath)
    match ← files.makeDirectories output.parent with
    | .error error => return .error (.file error)
    | .ok () =>
      match ← files.write output source.toUTF8.toList with
      | .error error => return .error (.file error)
      | .ok () => return .ok output

def finished (printed label path : String) (outputs : List EntryOutput) (lines : Nat) :
    Except Breakdown Outcome :=
  let diagnostics := Generation.diagnosticsOf outputs
  match Generation.reports label diagnostics with
  | .error mistake => .error (.usage mistake)
  | .ok reports =>
    let summary : Summary := ⟨label, path, Counts.ofOutputs outputs, lines⟩
    .ok {
      code := if diagnostics.isEmpty then 0 else 1
      output := printed ++ writtenLine lines path ++ summary.render
      errors := Text.endLines reports }

/-- The file is written even if there are diagnostics, since it holds them as compiler errors. -/
def runGenerate (files : FileSystem m) (input : Path) (output : Option Path) :
    m (Except Breakdown Outcome) := do
  let printed := parsingLine input
  match readManifest (← files.read input) with
  | .error fault => return stopped printed fault
  | .ok entries =>
    let printed := printed ++ entriesLine entries
    match Generation.outputsOf entries with
    | .error mistake => return .error (.usage mistake)
    | .ok outputs =>
      let printed := printed ++ generatedLine outputs
      match SourceFile.assemble input.name outputs with
      | .error mistake => return .error (.usage mistake)
      | .ok source =>
        match ← writeOutput files output source with
        | .error fault => return stopped printed fault
        | .ok written =>
          let path ← files.absolute written
          return finished printed input.name path outputs (lineCount source)

def runResolve (optionsText : String) : Outcome :=
  match OptionBlock.parse optionsText false .unstated with
  | .error problem => ⟨1, (ConfigError.invalidOptions problem).render, ""⟩
  | .ok block =>
    let resolution := block.resolve
    { code := if resolution.diagnostic.isSome then 1 else 0
      output := Discovery.resolutionReport optionsText resolution
      errors := "" }

def runConfig (files : FileSystem m) : Config → m (Except Breakdown Outcome)
  | .generate input output => runGenerate files input output
  | .listPlatforms => return .ok ⟨0, Discovery.platformTable, ""⟩
  | .resolve optionsText => return .ok (runResolve optionsText)

def run (files : FileSystem m) (words : List String) : m (Except Breakdown Outcome) := do
  match Request.ofWords words with
  | .error fault => return .ok ⟨2, "", usage ++ "platgen: error: " ++ fault.message ++ "\n"⟩
  | .ok .help => return .ok ⟨0, helpText, ""⟩
  | .ok (.run arguments) =>
    match ← arguments.config files with
    | .error (.config error) => return .ok ⟨1, error.render, ""⟩
    | .error (.breakdown cause) => return .error cause
    | .ok config => runConfig files config

end PlatformGate.Command
