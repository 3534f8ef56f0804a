import PlatformGate.Proofs.Command.Files

/-! A run that is made again. What the first run leaves has no part in what the second one reads,
unless the output is the manifest itself; so the second run goes the same way. Only where the first
has made directories in vain it may fail for another reason. -/

namespace PlatformGate.Command

theorem read_apply_of_ok {workspace : Workspace} {path : Path} {content : List UInt8}
    (h : workspace.read path = .ok content) :
    Workspace.fileSystem.read path workspace = (.ok content, workspace) := by
  simp only [Workspace.fileSystem, h]

theorem pathExists_of_read {workspace : Workspace} {path : Path} {content : List UInt8}
    (h : workspace.read path = .ok content) : workspace.pathExists path = true := by
  unfold Workspace.read at h
  unfold Workspace.pathExists
  cases found : workspace.find path with
  | error fault =>
    rw [found] at h
    cases h
  | ok node => rfl

namespace Loads

variable {words : List String} {workspace later : Workspace} {input : Path} {output : Option Path}
  {entries : List Entry}

theorem of_read (loads : Loads words workspace input output entries)
    (same : later.read input = workspace.read input) :
    Loads words later input output entries := by
  obtain ⟨arguments, understood, config⟩ := loads.config
  obtain ⟨content, found⟩ := loads.exists_read
  refine ⟨⟨arguments, understood, ?_⟩, ?_⟩
  · rw [config_of_generate (intent_of_config config),
      if_pos (pathExists_of_read (same.trans found))]
  · have manifest := loads.manifest
    rw [read_apply_of_ok found] at manifest
    rw [read_apply_of_ok (same.trans found)]
    exact manifest

end Loads

/-- The first run makes directories, but cannot make the one that the output is to stand in. Both
runs stop there, each with its own reason. -/
def StopsAtDirectory (words : List String) (workspace : Workspace) : Prop :=
  ∃ input path entries printed error other,
    Loads words workspace input (some path) entries ∧
    Workspace.fileSystem.makeDirectories path.parent workspace =
      (.error error, workspaceAfter words workspace) ∧
    workspaceAfter words workspace ≠ workspace ∧
    outcomeOf words workspace =
      .ok ⟨1, printed ++ "Error: " ++ error.render ++ "\n", ""⟩ ∧
    outcomeOf words (workspaceAfter words workspace) =
      .ok ⟨1, printed ++ "Error: " ++ FileError.render other ++ "\n", ""⟩

theorem Loads.again {words : List String} {workspace : Workspace} {input : Path}
    {output : Option Path} {entries : List Entry}
    (loads : Loads words workspace input output entries)
    (same : (workspaceAfter words workspace).read input = workspace.read input)
    (touched : workspaceAfter words workspace ≠ workspace) :
    workspaceAfter words (workspaceAfter words workspace) = workspaceAfter words workspace ∧
      (outcomeOf words (workspaceAfter words workspace) = outcomeOf words workspace ∨
        StopsAtDirectory words workspace) := by
  obtain ⟨outputs, source, generated, assembled, ran⟩ := loads.run_eq
  obtain ⟨outputs', source', generated', assembled', ran'⟩ := (loads.of_read same).run_eq
  cases generated.symm.trans generated'
  cases assembled.symm.trans assembled'
  have after : workspaceAfter words workspace =
      (writeOutput Workspace.fileSystem output source workspace).2 := by
    rw [workspaceAfter, ran, ending_snd]
  have first : outcomeOf words workspace = (ending input entries outputs source
      (writeOutput Workspace.fileSystem output source workspace)).1 := by
    rw [outcomeOf, ran]
  -- Writing again comes to the same, unless directories have been made in vain.
  rcases (Workspace.written_writeOutput output source workspace).again with
    again | ⟨path, error, other, rfl, made, failed, again⟩
  · rw [← after] at again
    rw [again] at ran'
    exact ⟨by rw [workspaceAfter, ran', ending_snd, after], .inl (by rw [outcomeOf, ran', first])⟩
  · rw [← after] at made again
    rw [again] at ran'
    refine ⟨by rw [workspaceAfter, ran', ending_snd], .inr ⟨input, path, entries,
      progress input entries outputs, error, other, loads, made, touched, ?_, ?_⟩⟩
    · rw [first]
      generalize writeOutput Workspace.fileSystem (some path) source workspace = result at failed
      obtain ⟨_, later⟩ := result
      cases failed
      rfl
    · rw [outcomeOf, ran']
      rfl

end PlatformGate.Command
