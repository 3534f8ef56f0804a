import PlatformGate.Command.Workspace
import PlatformGate.Markup.Token

/-! What the operations on a workspace keep. A directory stays one whatever is made or written, so a
path that leads somewhere goes on to lead there. Directories are only made where nothing is, and a
file is changed only by writing to the place that its path leads to. -/

namespace PlatformGate.Command

open Markup

section

variable {σ α β : Type}

theorem bind_apply (x : StateM σ α) (next : α → StateM σ β) (state : σ) :
    (x >>= next) state = next (x state).1 (x state).2 := rfl

theorem pure_apply (value : α) (state : σ) : (pure value : StateM σ α) state = (value, state) := rfl

end

namespace Workspace

def file? (workspace : Workspace) (place : Place) : Option (List UInt8) :=
  match workspace.node? place with
  | some (.file content) => some content
  | _ => none

theorem lookup_put (workspace : Workspace) (place other : Place) (node : Node) :
    (workspace.put place node).nodes.lookup other =
      if other = place then some node else workspace.nodes.lookup other := by
  rw [put, List.lookup_append]
  by_cases same : other = place
  · have gone : (workspace.nodes.filter (fun entry => entry.1 ≠ place)).lookup place = none := by
      rw [List.lookup_eq_none_iff]
      intro entry mem
      exact bne_iff_ne.mpr (Ne.symm (of_decide_eq_true (List.mem_filter.mp mem).2))
    rw [if_pos same, same, gone, Option.none_or, List.lookup_cons_self]
  · have last : [(place, node)].lookup other = none := by
      simpa [List.lookup_eq_none_iff] using same
    rw [if_neg same, last, Option.or_none]
    induction workspace.nodes with
    | nil => rfl
    | cons entry nodes ih =>
      obtain ⟨key, value⟩ := entry
      by_cases replaced : key = place
      · rw [List.filter_cons_of_neg (by simpa using replaced), ih, List.lookup_cons, replaced,
          beq_false_of_ne same]
      · rw [List.filter_cons_of_pos (by simpa using replaced), List.lookup_cons, List.lookup_cons,
          ih]

theorem node?_put {workspace : Workspace} {place : Place} {node : Node}
    (free : workspace.node? place ≠ some .directory) (other : Place) :
    (workspace.put place node).node? other =
      if other = place then some node else workspace.node? other := by
  have home : (workspace.put place node).home = workspace.home := rfl
  unfold node? at free ⊢
  rw [home, lookup_put]
  by_cases above : other.isPrefixOf workspace.home = true
  · have different : other ≠ place := fun same => free (if_pos (same ▸ above))
    rw [if_pos above, if_pos above, if_neg different]
  · rw [if_neg above, if_neg above]

theorem file?_put {workspace : Workspace} {place : Place} {content : List UInt8}
    (free : workspace.node? place ≠ some .directory) (other : Place) :
    (workspace.put place (.file content)).file? other =
      if other = place then some content else workspace.file? other := by
  unfold file?
  rw [node?_put free]
  by_cases same : other = place
  · rw [if_pos same, if_pos same]
  · rw [if_neg same, if_neg same]

theorem put_put (workspace : Workspace) (place : Place) (node : Node) :
    (workspace.put place node).put place node = workspace.put place node := by
  simp [put, List.filter_append]

theorem node?_start (workspace : Workspace) (path : Path) :
    workspace.node? (if path.isAbsolute then [] else workspace.home) = some .directory := by
  unfold node?
  split
  · rfl
  · exact if_pos (List.isPrefixOf_iff_prefix.mpr (List.prefix_refl _))

structure KeepsDirectories (workspace later : Workspace) : Prop where
  home : later.home = workspace.home
  directory : ∀ place, workspace.node? place = some .directory →
    later.node? place = some .directory

theorem KeepsDirectories.refl (workspace : Workspace) : KeepsDirectories workspace workspace :=
  ⟨rfl, fun _ here => here⟩

theorem KeepsDirectories.trans {workspace later last : Workspace}
    (h : KeepsDirectories workspace later) (h' : KeepsDirectories later last) :
    KeepsDirectories workspace last :=
  ⟨h'.home.trans h.home, fun place here => h'.directory place (h.directory place here)⟩

theorem keepsDirectories_put {workspace : Workspace} {place : Place} {node : Node}
    (free : workspace.node? place ≠ some .directory) :
    KeepsDirectories workspace (workspace.put place node) := by
  refine ⟨rfl, fun other here => ?_⟩
  have different : other ≠ place := fun same => free (same ▸ here)
  rw [node?_put free, if_neg different, here]

theorem step_eq_ok {workspace : Workspace} {place next : Place} {name : String} :
    workspace.step place name = .ok next ↔
      workspace.node? place = some .directory ∧ enter name place = next := by
  unfold Workspace.step
  rcases workspace.node? place with _ | _ | _ <;> simp

theorem KeepsDirectories.place {workspace later : Workspace} (h : KeepsDirectories workspace later)
    {path : Path} {place : Place} (leads : workspace.place path = .ok place) :
    later.place path = .ok place := by
  unfold Workspace.place at leads ⊢
  rw [h.home]
  generalize (if path.isAbsolute then [] else workspace.home) = start at leads ⊢
  generalize path.parts = parts at leads ⊢
  induction parts generalizing start with
  | nil => exact leads
  | cons name parts ih =>
    rw [List.foldlM_cons] at leads ⊢
    obtain ⟨next, entered, leads⟩ := bind_eq_ok.mp leads
    obtain ⟨here, entered⟩ := step_eq_ok.mp entered
    exact bind_eq_ok.mpr ⟨next, step_eq_ok.mpr ⟨h.directory start here, entered⟩, ih next leads⟩

theorem isDirectory_iff {workspace : Workspace} {path : Path} :
    workspace.isDirectory path = true ↔
      ∃ place, workspace.place path = .ok place ∧ workspace.node? place = some .directory := by
  unfold isDirectory find
  cases leads : workspace.place path with
  | error fault => simp [bind, Except.bind]
  | ok place =>
    rcases found : workspace.node? place with _ | _ | _ <;> simp [bind, Except.bind, found]

theorem isDirectory_parent {workspace : Workspace} {path : Path} {place : Place}
    (below : path.parts ≠ []) (leads : workspace.place path = .ok place) :
    workspace.isDirectory path.parent = true := by
  unfold Workspace.place at leads
  rw [← List.dropLast_concat_getLast below, List.foldlM_append] at leads
  obtain ⟨outer, leads, entered⟩ := bind_eq_ok.mp leads
  rw [List.foldlM_cons] at entered
  obtain ⟨next, entered, -⟩ := bind_eq_ok.mp entered
  exact isDirectory_iff.mpr ⟨outer, leads, (step_eq_ok.mp entered).1⟩

theorem read_eq_ok {workspace : Workspace} {path : Path} {content : List UInt8} :
    workspace.read path = .ok content ↔
      ∃ place, workspace.place path = .ok place ∧ workspace.file? place = some content := by
  unfold Workspace.read find
  cases leads : workspace.place path with
  | error fault => simp [bind, Except.bind]
  | ok place =>
    rcases found : workspace.node? place with _ | _ | _ <;> simp [bind, Except.bind, file?, found]

theorem write_eq_ok {workspace changed : Workspace} {path : Path} {content : List UInt8} :
    workspace.write path content = .ok changed ↔
      ∃ place, workspace.place path = .ok place ∧ workspace.node? place ≠ some .directory ∧
        workspace.put place (.file content) = changed := by
  unfold Workspace.write
  cases leads : workspace.place path with
  | error fault => simp [bind, Except.bind]
  | ok place =>
    rcases found : workspace.node? place with _ | _ | _ <;> simp [bind, Except.bind, found]

theorem makeDirectory_eq_ok {workspace changed : Workspace} {path : Path} :
    workspace.makeDirectory path = .ok changed ↔
      ∃ place, workspace.place path = .ok place ∧ workspace.node? place = none ∧
        workspace.put place .directory = changed := by
  unfold Workspace.makeDirectory
  cases leads : workspace.place path with
  | error fault => simp [bind, Except.bind]
  | ok place => rcases found : workspace.node? place with _ | _ <;> simp [bind, Except.bind, found]

structure Grows (workspace later : Workspace) : Prop where
  directories : KeepsDirectories workspace later
  files : ∀ place, later.file? place = workspace.file? place

theorem Grows.refl (workspace : Workspace) : Grows workspace workspace :=
  ⟨.refl workspace, fun _ => rfl⟩

theorem Grows.trans {workspace later last : Workspace} (h : Grows workspace later)
    (h' : Grows later last) : Grows workspace last :=
  ⟨h.directories.trans h'.directories, fun place => (h'.files place).trans (h.files place)⟩

theorem grows_makeDirectory {workspace changed : Workspace} {path : Path}
    (made : workspace.makeDirectory path = .ok changed) : Grows workspace changed := by
  obtain ⟨place, -, nothing, rfl⟩ := makeDirectory_eq_ok.mp made
  have free : workspace.node? place ≠ some .directory := by simp [nothing]
  refine ⟨keepsDirectories_put free, fun other => ?_⟩
  unfold file?
  rw [node?_put free]
  by_cases same : other = place
  · rw [if_pos same, same, nothing]
  · rw [if_neg same]

theorem isDirectory_of_makeDirectory {workspace changed : Workspace} {path : Path}
    (made : workspace.makeDirectory path = .ok changed) : changed.isDirectory path = true := by
  have grows := grows_makeDirectory made
  obtain ⟨place, leads, nothing, rfl⟩ := makeDirectory_eq_ok.mp made
  refine isDirectory_iff.mpr ⟨place, grows.directories.place leads, ?_⟩
  rw [node?_put (by simp [nothing]), if_pos rfl]

theorem makeDirectory_of_isDirectory {workspace : Workspace} {path : Path}
    (there : workspace.isDirectory path = true) :
    workspace.makeDirectory path = .error .alreadyExists := by
  obtain ⟨place, leads, found⟩ := isDirectory_iff.mp there
  simp [makeDirectory, leads, found, bind, Except.bind]

def accepted (workspace : Workspace) (path : Path) (fault : FileFault) :
    Except FileError Unit × Workspace :=
  (if workspace.isDirectory path then .ok () else .error ⟨fault, path⟩, workspace)

theorem makeDirectory_apply_of_ok {workspace made : Workspace} {path : Path}
    (h : workspace.makeDirectory path = .ok made) :
    fileSystem.makeDirectory path workspace = (.ok (), made) := by
  simp only [fileSystem, change, h]

theorem makeDirectory_apply_of_error {workspace : Workspace} {path : Path} {fault : FileFault}
    (h : workspace.makeDirectory path = .error fault) :
    fileSystem.makeDirectory path workspace = (.error ⟨fault, path⟩, workspace) := by
  simp only [fileSystem, change, h]

theorem accept_apply (workspace : Workspace) (path : Path) (fault : FileFault) :
    fileSystem.accept path ⟨fault, path⟩ workspace = workspace.accepted path fault := by
  have asked : fileSystem.isDirectory path workspace =
      (workspace.isDirectory path, workspace) := rfl
  unfold FileSystem.accept accepted
  rw [bind_apply, asked]
  by_cases there : workspace.isDirectory path = true
  · rw [if_pos there, if_pos there, pure_apply]
  · rw [if_neg there, if_neg there, pure_apply]

theorem makeDirectories_eq (workspace : Workspace) (path : Path) :
    fileSystem.makeDirectories path workspace =
      match workspace.makeDirectory path with
      | .ok made => (.ok (), made)
      | .error fault =>
        if fault ≠ .notFound then workspace.accepted path fault
        else if path.parts = [] then (.error ⟨fault, path⟩, workspace)
        else
          match fileSystem.makeDirectories path.parent workspace with
          | (.error error, later) => (.error error, later)
          | (.ok (), later) =>
            match later.makeDirectory path with
            | .ok made => (.ok (), made)
            | .error again =>
              if again = .notFound then (.error ⟨again, path⟩, later)
              else later.accepted path again := by
  rw [FileSystem.makeDirectories, bind_apply]
  rcases first : workspace.makeDirectory path with fault | made
  · rw [makeDirectory_apply_of_error first]
    by_cases other : fault ≠ .notFound
    · simp only [if_pos other, accept_apply]
    by_cases top : path.parts = []
    · simp only [if_neg other, dif_pos top, if_pos top, pure_apply]
    simp only [if_neg other, dif_neg top, if_neg top]
    rw [bind_apply]
    rcases fileSystem.makeDirectories path.parent workspace with ⟨error | done, later⟩
    · rfl
    simp only
    rw [bind_apply]
    rcases second : later.makeDirectory path with again | made
    · rw [makeDirectory_apply_of_error second]
      by_cases absent : again = .notFound
      · simp only [if_pos absent, pure_apply]
      · simp only [if_neg absent, accept_apply]
    · rw [makeDirectory_apply_of_ok second]
      rfl
  · rw [makeDirectory_apply_of_ok first]
    rfl

theorem makeDirectories_of_isDirectory {workspace : Workspace} {path : Path}
    (there : workspace.isDirectory path = true) :
    fileSystem.makeDirectories path workspace = (.ok (), workspace) := by
  rw [makeDirectories_eq, makeDirectory_of_isDirectory there]
  simp [accepted, there]

/-- What comes of making a directory with those above it: it is there, or else it is not, and the
next attempt fails as well and makes nothing more. -/
structure Settled (workspace : Workspace) (path : Path)
    (result : Except FileError Unit × Workspace) : Prop where
  grows : Grows workspace result.2
  made : result.1 = .ok () → result.2.isDirectory path = true
  again : ∀ error, result.1 = .error error →
    ∃ other, fileSystem.makeDirectories path result.2 = (.error other, result.2)

theorem settled_accepted {workspace later : Workspace} {path : Path} {fault : FileFault}
    (grows : Grows workspace later) (refused : later.makeDirectory path = .error fault)
    (other : fault ≠ .notFound) : Settled workspace path (later.accepted path fault) := by
  by_cases there : later.isDirectory path = true
  · refine ⟨grows, fun _ => there, fun error failed => ?_⟩
    simp [accepted, there] at failed
  · refine ⟨grows, fun done => ?_, fun error failed => ⟨⟨fault, path⟩, ?_⟩⟩
    · simp [accepted, there] at done
    · simp only [accepted]
      rw [makeDirectories_eq, refused]
      simp only [if_pos other, accepted, if_neg there]

/-- Where the directory above cannot be made, no later attempt makes this one. -/
theorem makeDirectories_of_parent {workspace : Workspace} {path : Path} {error : FileError}
    (below : path.parts ≠ [])
    (above : fileSystem.makeDirectories path.parent workspace = (.error error, workspace)) :
    ∃ other, fileSystem.makeDirectories path workspace = (.error other, workspace) := by
  -- If the path led anywhere, the directory above it would be there.
  have nowhere : ∀ place, workspace.place path ≠ .ok place := fun place leads => by
    rw [makeDirectories_of_isDirectory (isDirectory_parent below leads)] at above
    cases above
  have absent : ¬workspace.isDirectory path = true := fun there => by
    obtain ⟨place, leads, -⟩ := isDirectory_iff.mp there
    exact nowhere place leads
  rw [makeDirectories_eq]
  rcases made : workspace.makeDirectory path with fault | changed
  · by_cases other : fault ≠ .notFound
    · exact ⟨⟨fault, path⟩, by simp only [if_pos other, accepted, if_neg absent]⟩
    · exact ⟨error, by simp only [if_neg other, if_neg below, above]⟩
  · obtain ⟨parts, leads, -, -⟩ := makeDirectory_eq_ok.mp made
    exact absurd leads (nowhere _)

theorem settled_makeDirectories (workspace : Workspace) (path : Path) :
    Settled workspace path (fileSystem.makeDirectories path workspace) := by
  rw [makeDirectories_eq]
  rcases first : workspace.makeDirectory path with fault | made
  · by_cases other : fault ≠ .notFound
    · simp only [if_pos other]
      exact settled_accepted (.refl workspace) first other
    by_cases top : path.parts = []
    · simp only [if_neg other, if_pos top]
      refine ⟨.refl workspace, nofun, fun _ _ => ⟨⟨fault, path⟩, ?_⟩⟩
      rw [makeDirectories_eq, first]
      simp only [if_neg other, if_pos top]
    simp only [if_neg other, if_neg top]
    -- The directory above has one component less, and is settled first.
    have parent := settled_makeDirectories workspace path.parent
    generalize fileSystem.makeDirectories path.parent workspace = result at parent ⊢
    obtain ⟨error | done, later⟩ := result
    · obtain ⟨_, above⟩ := parent.again error rfl
      exact ⟨parent.grows, nofun, fun _ _ => makeDirectories_of_parent top above⟩
    simp only
    have there := parent.made rfl
    rcases second : later.makeDirectory path with again | made
    · by_cases absent : again = .notFound
      · simp only [if_pos absent]
        refine ⟨parent.grows, nofun, fun _ _ => ⟨⟨again, path⟩, ?_⟩⟩
        rw [makeDirectories_eq, second]
        simp only [absent, ne_eq, not_true, if_false, if_neg top,
          makeDirectories_of_isDirectory there, second, if_true]
      · simp only [if_neg absent]
        exact settled_accepted parent.grows second absent
    · refine ⟨parent.grows.trans (grows_makeDirectory second),
        fun _ => isDirectory_of_makeDirectory second, fun _ failed => by cases failed⟩
  · exact ⟨grows_makeDirectory first, fun _ => isDirectory_of_makeDirectory first,
      fun _ failed => by cases failed⟩
termination_by path.parts.length
decreasing_by
  have := List.length_pos_iff.mpr top
  simp only [Path.parent, List.length_dropLast]
  omega

end Workspace

end PlatformGate.Command
