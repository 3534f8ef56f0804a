import PlatformGate.Command.Run

/-!
The command line on the files of the machine.
-/

namespace PlatformGate.Command.Machine

def succeeds {α : Type} (action : IO α) : IO Bool :=
  try
    discard action
    return true
  catch _ => return false

def pathExists (path : Path) : IO Bool := succeeds (IO.FS.realPath path.render)

def isDirectory (path : Path) : IO Bool := succeeds (IO.FS.realPath (path.render ++ "/."))

def faultOf : IO.Error → FileFault
  | .noFileOrDirectory .. => .notFound
  | .alreadyExists .. => .alreadyExists
  | _ => .notDirectory

def attempt {α : Type} (path : Path) (action : IO α) : IO (Except FileError α) :=
  try
    return .ok (← action)
  catch error => return .error ⟨faultOf error, path⟩

def onFile {α : Type} (path : Path) (action : IO α) : IO (Except FileError α) := do
  if ← isDirectory path then return .error ⟨.isDirectory, path⟩ else attempt path action

def fileSystem : FileSystem IO where
  pathExists := pathExists
  isDirectory := isDirectory
  read path := onFile path do return (← IO.FS.readBinFile path.render).toList
  makeDirectory path := attempt path (IO.FS.createDir path.render)
  write path content :=
    onFile path (IO.FS.writeBinFile path.render (ByteArray.mk content.toArray))
  absolute path := do return toString (← IO.FS.realPath path.render)

end PlatformGate.Command.Machine

/-- Runs the command line, prints its output and its errors, and ends with its code. A breakdown
has only a message. -/
def main (words : List String) : IO UInt32 := do
  match ← PlatformGate.Command.run PlatformGate.Command.Machine.fileSystem words with
  | .ok outcome =>
    IO.print outcome.output
    IO.eprint outcome.errors
    return UInt32.ofNat outcome.code
  | .error breakdown =>
    IO.eprintln breakdown.message
    return 1
