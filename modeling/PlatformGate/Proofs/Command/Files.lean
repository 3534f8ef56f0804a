import PlatformGate.Proofs.Command.Generate

/-! What a run does to the files. A run that does not come to the entries of a manifest leaves the
workspace as it is; one that does may make directories, and may change the file that the output path
leads to and no other. -/

namespace PlatformGate.Command

namespace Workspace

theorem write_apply_of_ok {workspace changed : Workspace} {path : Path} {content : List UInt8}
    (h : workspace.write path content = .ok changed) :
    fileSystem.write path content workspace = (.ok (), changed) := by
  simp only [fileSystem, change, h]

theorem write_apply_of_error {workspace : Workspace} {path : Path} {content : List UInt8}
    {fault : FileFault} (h : workspace.write path content = .error fault) :
    fileSystem.write path content workspace = (.error ⟨fault, path⟩, workspace) := by
  simp only [fileSystem, change, h]

/-- What comes of writing the text to the output, and of writing it there again. The second attempt
differs in nothing, except that it may fail for another reason where directories have been made in
vain. -/
structure Written (workspace : Workspace) (output : Option Path) (source : String)
    (result : Except RunFault Path × Workspace) : Prop where
  directories : KeepsDirectories workspace result.2
  files : ∀ place, result.2.file? place ≠ workspace.file? place →
    ∃ path, output = some path ∧ result.2.place path = .ok place
  content : ∀ path, result.1 = .ok path →
    output = some path ∧ result.2.read path = .ok source.toUTF8.toList
  again : writeOutput fileSystem output source result.2 = result ∨
    ∃ path error other, output = some path ∧
      fileSystem.makeDirectories path.parent workspace = (.error error, result.2) ∧
      result.1 = .error (.file error) ∧
      writeOutput fileSystem output source result.2 = (.error (.file other), result.2)

theorem Written.of_grows {workspace later : Workspace} {output : Option Path} {source : String}
    {fault : RunFault} (grows : Grows workspace later)
    (again : writeOutput fileSystem output source later = (.error fault, later) ∨
      ∃ path error other, output = some path ∧
        fileSystem.makeDirectories path.parent workspace = (.error error, later) ∧
        (.error fault : Except RunFault Path) = .error (.file error) ∧
        writeOutput fileSystem output source later = (.error (.file other), later)) :
    Written workspace output source (.error fault, later) where
  directories := grows.directories
  files place changed := absurd (grows.files place) changed
  content := nofun
  again := again

theorem writeOutput_none (source : String) (workspace : Workspace) :
    writeOutput fileSystem none source workspace =
      (.error (.breakdown .noOutputPath), workspace) := rfl

theorem writeOutput_of_nul {path : Path} (nul : path.render.toList.contains '\x00' = true)
    (source : String) (workspace : Workspace) :
    writeOutput fileSystem (some path) source workspace =
      (.error (.breakdown .nulInPath), workspace) := by
  unfold writeOutput
  simp only [if_pos nul]
  rfl

theorem writeOutput_some {path : Path} (clean : ¬path.render.toList.contains '\x00' = true)
    (source : String) (workspace : Workspace) :
    writeOutput fileSystem (some path) source workspace =
      match fileSystem.makeDirectories path.parent workspace with
      | (.error error, later) => (.error (.file error), later)
      | (.ok (), later) =>
        match later.write path source.toUTF8.toList with
        | .error fault => (.error (.file ⟨fault, path⟩), later)
        | .ok changed => (.ok path, changed) := by
  unfold writeOutput
  simp only [if_neg clean]
  rw [bind_apply]
  rcases fileSystem.makeDirectories path.parent workspace with ⟨error | done, later⟩
  · rfl
  simp only
  rw [bind_apply]
  rcases wrote : later.write path source.toUTF8.toList with fault | changed
  · rw [write_apply_of_error wrote]
    rfl
  · rw [write_apply_of_ok wrote]
    rfl

theorem written_of_write {workspace later changed : Workspace} {path : Path} {source : String}
    (clean : ¬path.render.toList.contains '\x00' = true) (grows : Grows workspace later)
    (there : later.isDirectory path.parent = true)
    (wrote : later.write path source.toUTF8.toList = .ok changed) :
    Written workspace (some path) source (.ok path, changed) := by
  obtain ⟨place, leads, free, rfl⟩ := write_eq_ok.mp wrote
  have directories : KeepsDirectories later (later.put place (.file source.toUTF8.toList)) :=
    keepsDirectories_put free
  have file (other : Place) :
      (later.put place (.file source.toUTF8.toList)).file? other =
        if other = place then some source.toUTF8.toList else later.file? other :=
    file?_put free other
  refine ⟨grows.directories.trans directories, fun other changes => ?_, fun output done => ?_, ?_⟩
  · refine ⟨path, rfl, ?_⟩
    by_cases same : other = place
    · exact same ▸ directories.place leads
    · rw [file, if_neg same] at changes
      exact absurd (grows.files other) changes
  · cases done
    exact ⟨rfl, read_eq_ok.mpr ⟨place, directories.place leads, by rw [file, if_pos rfl]⟩⟩
  -- Directories stay, so the second attempt comes to the same place and puts the same there.
  · left
    obtain ⟨outer, above, found⟩ := isDirectory_iff.mp there
    have kept : (later.put place (.file source.toUTF8.toList)).isDirectory path.parent = true :=
      isDirectory_iff.mpr ⟨outer, directories.place above, directories.directory outer found⟩
    have once : (later.put place (.file source.toUTF8.toList)).write path source.toUTF8.toList =
        .ok (later.put place (.file source.toUTF8.toList)) := by
      refine write_eq_ok.mpr ⟨place, directories.place leads, ?_, put_put later place _⟩
      rw [node?_put free, if_pos rfl]
      simp
    rw [writeOutput_some clean, makeDirectories_of_isDirectory kept]
    simp only [once]

theorem written_writeOutput (output : Option Path) (source : String) (workspace : Workspace) :
    Written workspace output source (writeOutput fileSystem output source workspace) := by
  cases output with
  | none => exact .of_grows (.refl workspace) (.inl (writeOutput_none source workspace))
  | some path =>
    by_cases nul : path.render.toList.contains '\x00' = true
    · rw [writeOutput_of_nul nul]
      exact .of_grows (.refl workspace) (.inl (writeOutput_of_nul nul source workspace))
    rw [writeOutput_some nul]
    have settled := settled_makeDirectories workspace path.parent
    generalize made : fileSystem.makeDirectories path.parent workspace = result at settled ⊢
    obtain ⟨error | done, later⟩ := result
    · obtain ⟨other, again⟩ := settled.again error rfl
      refine .of_grows settled.grows (.inr ⟨path, error, other, rfl, made, rfl, ?_⟩)
      rw [writeOutput_some nul, again]
    have there := settled.made rfl
    simp only
    rcases wrote : later.write path source.toUTF8.toList with fault | changed
    · refine .of_grows settled.grows (.inl ?_)
      rw [writeOutput_some nul, makeDirectories_of_isDirectory there]
      simp only [wrote]
    · exact written_of_write nul settled.grows there wrote

end Workspace

def outcomeOf (words : List String) (workspace : Workspace) : Except Breakdown Outcome :=
  (run Workspace.fileSystem words workspace).1

def workspaceAfter (words : List String) (workspace : Workspace) : Workspace :=
  (run Workspace.fileSystem words workspace).2

/-- The run gets the entries of the manifest, and has to write the output next. -/
structure Loads (words : List String) (workspace : Workspace) (input : Path)
    (output : Option Path) (entries : List Entry) : Prop where
  config : ∃ arguments : Arguments, Request.ofWords words = .ok (.run arguments) ∧
    (arguments.config Workspace.fileSystem workspace).1 = .ok (.generate input output)
  manifest : readManifest (Workspace.fileSystem.read input workspace).1 = .ok entries

theorem requirePath_some (workspace : Workspace) (path : Path) (flag : String)
    (suggestion : Option String) :
    requirePath Workspace.fileSystem (some path) flag suggestion workspace =
      (if workspace.pathExists path then .ok path else .error (.absentPath flag path suggestion),
        workspace) := by
  have asked : Workspace.fileSystem.pathExists path workspace =
      (workspace.pathExists path, workspace) := rfl
  simp only [requirePath, bind_apply, asked]
  by_cases found : workspace.pathExists path = true
  · rw [if_pos found, if_pos found, pure_apply]
  · rw [if_neg found, if_neg found, pure_apply]

theorem config_of_generate {arguments : Arguments} {input : Path} {output : Option Path}
    (asked : arguments.intent = .ok (.generate input output)) (workspace : Workspace) :
    arguments.config Workspace.fileSystem workspace =
      (if workspace.pathExists input then .ok (.generate input output)
        else .error (.config (.absentPath "--input" input
          (some "Point --input at an existing declaration manifest (XML)."))), workspace) := by
  simp only [Arguments.config, asked, bind_apply, requirePath_some]
  by_cases found : workspace.pathExists input = true
  · simp only [if_pos found, pure_apply]
  · simp only [if_neg found, pure_apply]

theorem config_snd (arguments : Arguments) (workspace : Workspace) :
    (arguments.config Workspace.fileSystem workspace).2 = workspace := by
  cases asked : arguments.intent with
  | error refusal => rw [Arguments.config, asked]; rfl
  | ok wanted =>
    cases wanted with
    | listPlatforms => rw [Arguments.config, asked]; rfl
    | resolve text => rw [Arguments.config, asked]; rfl
    | generate input output => rw [config_of_generate asked]

theorem intent_of_config {arguments : Arguments} {workspace : Workspace} {input : Path}
    {output : Option Path}
    (h : (arguments.config Workspace.fileSystem workspace).1 = .ok (.generate input output)) :
    arguments.intent = .ok (.generate input output) := by
  cases asked : arguments.intent with
  | error refusal =>
    rw [Arguments.config, asked] at h
    cases h
  | ok wanted =>
    cases wanted with
    | generate given =>
      rw [config_of_generate asked] at h
      split_ifs at h with found
      exact h
    | listPlatforms =>
      rw [Arguments.config, asked] at h
      cases h
    | resolve text =>
      rw [Arguments.config, asked] at h
      cases h

theorem read_snd (workspace : Workspace) (path : Path) :
    (Workspace.fileSystem.read path workspace).2 = workspace := by
  unfold Workspace.fileSystem
  simp only
  split <;> rfl

theorem run_of_config {words : List String} {arguments : Arguments} {config : Config}
    {workspace : Workspace} (understood : Request.ofWords words = .ok (.run arguments))
    (asked : (arguments.config Workspace.fileSystem workspace).1 = .ok config) :
    run Workspace.fileSystem words workspace = runConfig Workspace.fileSystem config workspace := by
  rw [run, understood]
  simp only [bind_apply, asked, config_snd]

def progress (input : Path) (entries : List Entry) (outputs : List EntryOutput) : String :=
  parsingLine input ++ entriesLine entries ++ generatedLine outputs

def ending (input : Path) (entries : List Entry) (outputs : List EntryOutput) (source : String) :
    Except RunFault Path × Workspace → Except Breakdown Outcome × Workspace
  | (.error fault, later) => (stopped (progress input entries outputs) fault, later)
  | (.ok path, later) =>
    (finished (progress input entries outputs) input.name (later.absolute path) outputs
      (lineCount source), later)

theorem ending_snd (input : Path) (entries : List Entry) (outputs : List EntryOutput)
    (source : String) (result : Except RunFault Path × Workspace) :
    (ending input entries outputs source result).2 = result.2 := by
  obtain ⟨fault | path, later⟩ := result <;> rfl

namespace Loads

variable {words : List String} {workspace : Workspace} {input : Path} {output : Option Path}
  {entries : List Entry}

theorem exists_read (loads : Loads words workspace input output entries) :
    ∃ content, workspace.read input = .ok content := by
  obtain ⟨content, _, read, -, -⟩ := readManifest_eq_ok.mp loads.manifest
  unfold Workspace.fileSystem at read
  cases found : workspace.read input with
  | error fault => simp [found] at read
  | ok content => exact ⟨content, rfl⟩

theorem name_ne_empty (loads : Loads words workspace input output entries) : input.name ≠ "" := by
  obtain ⟨arguments, -, config⟩ := loads.config
  obtain ⟨text, rfl⟩ := exists_of_config (Prod.ext config rfl)
  obtain ⟨content, _, read, -, -⟩ := readManifest_eq_ok.mp loads.manifest
  exact Path.name_ne_empty (Workspace.readsFiles_fileSystem _ _ _ read)

theorem run_eq (loads : Loads words workspace input output entries) :
    ∃ outputs source, Generation.outputsOf entries = .ok outputs ∧
      SourceFile.assemble input.name outputs = .ok source ∧
      run Workspace.fileSystem words workspace = ending input entries outputs source
        (writeOutput Workspace.fileSystem output source workspace) := by
  obtain ⟨arguments, understood, config⟩ := loads.config
  obtain ⟨_, root, -, -, rooted⟩ := readManifest_eq_ok.mp loads.manifest
  obtain ⟨outputs, generates⟩ := Generation.exists_outputs fun _ mem =>
    Manifest.wellFormed_of_entries rooted mem
  have generated := Generation.outputsOf_of_generates generates
  have assembled := SourceFile.assemble_of_label loads.name_ne_empty outputs
  refine ⟨outputs, _, generated, assembled, ?_⟩
  rw [run_of_config understood config]
  simp only [runConfig, runGenerate, bind_apply, loads.manifest, read_snd, generated, assembled]
  generalize writeOutput Workspace.fileSystem output _ workspace = result
  obtain ⟨fault | path, later⟩ := result <;> rfl

end Loads

end PlatformGate.Command
