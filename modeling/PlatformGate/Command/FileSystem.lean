import PlatformGate.Command.Path
import PlatformGate.Text.Quoted

/-!
What the command line needs of a file system, and what can go wrong there. The command line is
written against this interface; it runs on the files of the machine and on a workspace that is a
plain value.
-/

namespace PlatformGate.Command

inductive FileFault where
  | notFound
  | alreadyExists
  | notDirectory
  | isDirectory
  deriving DecidableEq, Repr

namespace FileFault

def number : FileFault → Nat
  | notFound => 2
  | alreadyExists => 17
  | notDirectory => 20
  | isDirectory => 21

def reason : FileFault → String
  | notFound => "No such file or directory"
  | alreadyExists => "File exists"
  | notDirectory => "Not a directory"
  | isDirectory => "Is a directory"

end FileFault

structure FileError where
  fault : FileFault
  path : Path
  deriving DecidableEq, Repr

def FileError.render (error : FileError) : String :=
  "[Errno " ++ toString error.fault.number ++ "] " ++ error.fault.reason ++ ": " ++
    Text.quoted error.path.render

structure FileSystem (m : Type → Type) where
  pathExists : Path → m Bool
  isDirectory : Path → m Bool
  read : Path → m (Except FileError (List UInt8))
  makeDirectory : Path → m (Except FileError Unit)
  write : Path → List UInt8 → m (Except FileError Unit)
  absolute : Path → m String

namespace FileSystem

variable {m : Type → Type} [Monad m]

/-- A failure to make a directory that is there already is none. -/
def accept (files : FileSystem m) (path : Path) (error : FileError) :
    m (Except FileError Unit) := do
  if ← files.isDirectory path then return .ok () else return .error error

def makeDirectories (files : FileSystem m) (path : Path) : m (Except FileError Unit) := do
  match ← files.makeDirectory path with
  | .ok () => return .ok ()
  | .error error =>
    if error.fault ≠ .notFound then files.accept path error
    else if _ : path.parts = [] then return .error error
    else
      match ← files.makeDirectories path.parent with
      | .error above => return .error above
      | .ok () =>
        match ← files.makeDirectory path with
        | .ok () => return .ok ()
        | .error again =>
          if again.fault = .notFound then return .error again else files.accept path again
termination_by path.parts.length
decreasing_by
  have := List.length_pos_iff.mpr ‹¬path.parts = []›
  simp only [Path.parent, List.length_dropLast]
  omega

end FileSystem

end PlatformGate.Command
