import PlatformGate.Command.FileSystem

/-!
A file system as a value: the files and directories by their places, and the working directory that
relative paths start from. There are no links, so a path is followed one component after another,
and two dots lead to the directory above.
-/

namespace PlatformGate.Command

inductive Node where
  | directory
  | file (content : List UInt8)
  deriving DecidableEq, Repr

abbrev Place := List String

structure Workspace where
  workingDirectory : String
  nodes : List (Place × Node)
  deriving DecidableEq, Repr

namespace Workspace

def home (workspace : Workspace) : Place := (Path.ofString workspace.workingDirectory).parts

/-- The working directory and those above it are there whatever the nodes are. -/
def node? (workspace : Workspace) (place : Place) : Option Node :=
  if place.isPrefixOf workspace.home then some .directory else workspace.nodes.lookup place

def enter (name : String) (place : Place) : Place :=
  if name = ".." then place.dropLast else place ++ [name]

def step (workspace : Workspace) (place : Place) (name : String) : Except FileFault Place :=
  match workspace.node? place with
  | some .directory => .ok (enter name place)
  | some (.file _) => .error .notDirectory
  | none => .error .notFound

/-- The place that a path leads to, where there need not be anything yet. Every component in front
of the last has to lead to a directory. -/
def place (workspace : Workspace) (path : Path) : Except FileFault Place :=
  path.parts.foldlM workspace.step (if path.isAbsolute then [] else workspace.home)

def find (workspace : Workspace) (path : Path) : Except FileFault Node := do
  match workspace.node? (← workspace.place path) with
  | some node => .ok node
  | none => .error .notFound

def put (workspace : Workspace) (place : Place) (node : Node) : Workspace :=
  { workspace with
    nodes := workspace.nodes.filter (fun entry => entry.1 ≠ place) ++ [(place, node)] }

def pathExists (workspace : Workspace) (path : Path) : Bool := (workspace.find path).isOk

def isDirectory (workspace : Workspace) (path : Path) : Bool :=
  match workspace.find path with
  | .ok .directory => true
  | _ => false

def read (workspace : Workspace) (path : Path) : Except FileFault (List UInt8) :=
  match workspace.find path with
  | .ok (.file content) => .ok content
  | .ok .directory => .error .isDirectory
  | .error fault => .error fault

def makeDirectory (workspace : Workspace) (path : Path) : Except FileFault Workspace := do
  let place ← workspace.place path
  match workspace.node? place with
  | some _ => .error .alreadyExists
  | none => .ok (workspace.put place .directory)

def write (workspace : Workspace) (path : Path) (content : List UInt8) :
    Except FileFault Workspace := do
  let place ← workspace.place path
  match workspace.node? place with
  | some .directory => .error .isDirectory
  | _ => .ok (workspace.put place (.file content))

def absolute (workspace : Workspace) (path : Path) : String :=
  match workspace.place path with
  | .ok place => { Path.ofString workspace.workingDirectory with parts := place }.render
  | .error _ => path.render

def change (path : Path) (operation : Workspace → Except FileFault Workspace) :
    StateM Workspace (Except FileError Unit) := fun workspace =>
  match operation workspace with
  | .ok changed => (.ok (), changed)
  | .error fault => (.error ⟨fault, path⟩, workspace)

def fileSystem : FileSystem (StateM Workspace) where
  pathExists path := fun workspace => (workspace.pathExists path, workspace)
  isDirectory path := fun workspace => (workspace.isDirectory path, workspace)
  read path := fun workspace =>
    match workspace.read path with
    | .ok content => (.ok content, workspace)
    | .error fault => (.error ⟨fault, path⟩, workspace)
  makeDirectory path := change path (·.makeDirectory path)
  write path content := change path (·.write path content)
  absolute path := fun workspace => (workspace.absolute path, workspace)

def addDirectories (workspace : Workspace) (parts : List String) : Workspace :=
  (List.range parts.length).foldl
    (fun made n =>
      let place := made.home ++ parts.take (n + 1)
      match made.node? place with
      | some _ => made
      | none => made.put place .directory)
    workspace

def addFile (workspace : Workspace) (parts : List String) (content : List UInt8) : Workspace :=
  (workspace.addDirectories parts.dropLast).put (workspace.home ++ parts) (.file content)

/-- The files below the working directory that the earlier file system does not hold with the same
content, by their paths from there. -/
def filesBeyond (workspace earlier : Workspace) : List (List String × List UInt8) :=
  workspace.nodes.filterMap fun (place, node) =>
    match node with
    | .directory => none
    | .file content =>
      if workspace.home.isPrefixOf place ∧ earlier.nodes.lookup place ≠ some node then
        some (place.drop workspace.home.length, content)
      else none

end Workspace

end PlatformGate.Command
