import PlatformGate.Command.Run
import PlatformGate.Proofs.Command.Workspace
import PlatformGate.Proofs.Completeness

/-! A run that generates: what it reports on the diagnostics of its entries. The error output, the
written file, the summary, the progress line and the code all go back to one list, which is that of
the diagnostics in manifest order. -/

namespace PlatformGate.Command

variable {σ : Type} {files : FileSystem (StateM σ)}

/-- A path without components leads to a directory, from which nothing is read. -/
def FileSystem.ReadsFiles (files : FileSystem (StateM σ)) : Prop :=
  ∀ (path : Path) (state : σ) (content : List UInt8),
    (files.read path state).1 = .ok content → path.parts ≠ []

theorem Workspace.readsFiles_fileSystem : Workspace.fileSystem.ReadsFiles := by
  intro path workspace content h empty
  have nowhere : workspace.find path = .ok .directory := by
    rw [find, place, empty, List.foldlM_nil]
    simp only [pure_bind, node?_start]
  simp [fileSystem, read, nowhere] at h

theorem Path.name_ne_empty {text : String} (h : (ofString text).parts ≠ []) :
    (ofString text).name ≠ "" := by
  have kept := (List.mem_filter.mp (List.getLast_mem h)).2
  rw [decide_eq_true_eq] at kept
  rw [name, List.getLast?_eq_some_getLast h, Option.getD_some]
  exact kept.1

theorem exists_of_intent {arguments : Arguments} {input : Path} {output : Option Path}
    (h : arguments.intent = .ok (.generate input output)) : ∃ text, input = Path.ofString text := by
  unfold Arguments.intent at h
  simp only at h
  split_ifs at h
  · cases h
  split at h
  next => cases h
  next => split at h <;> cases h
  next =>
    split at h
    next => cases h
    next => cases h
    next => cases h
    next =>
      cases h
      exact ⟨_, rfl⟩

theorem eq_of_requirePath {path given : Path} {flag : String} {suggestion : Option String}
    {state : σ} (h : (requirePath files (some path) flag suggestion state).1 = .ok given) :
    given = path := by
  simp only [requirePath, bind_apply] at h
  split at h
  · cases h
    rfl
  · cases h

theorem exists_of_config {arguments : Arguments} {input : Path} {output : Option Path}
    {state after : σ}
    (h : arguments.config files state = (.ok (.generate input output), after)) :
    ∃ text, input = Path.ofString text := by
  unfold Arguments.config at h
  cases asked : arguments.intent with
  | error refusal =>
    rw [asked] at h
    cases h
  | ok config =>
    rw [asked] at h
    cases config with
    | generate wanted output =>
      simp only at h
      rw [bind_apply] at h
      generalize required : requirePath files (some wanted) _ _ state = result at h
      obtain ⟨found | given, between⟩ := result
      · cases h
      · cases h
        rw [eq_of_requirePath (congrArg Prod.fst required)]
        exact exists_of_intent asked
    | listPlatforms => cases h
    | resolve => cases h

theorem readManifest_eq_ok {content : Except FileError (List UInt8)} {entries : List Entry} :
    readManifest content = .ok entries ↔
      ∃ bytes root, content = .ok bytes ∧ Markup.parseBytes bytes = .ok root ∧
        Manifest.entries root = .ok entries := by
  unfold readManifest
  cases content with
  | error error => simp
  | ok bytes =>
    cases parsed : Markup.parseBytes bytes with
    | error error => simp [parsed]
    | ok root => cases read : Manifest.entries root <;> simp [parsed, read]

theorem write_of_writeOutput {output path : Path} {source : String} {state : σ}
    (h : (writeOutput files (some output) source state).1 = .ok path) :
    path = output ∧ ∃ before, files.write output source.toUTF8.toList before =
      (.ok (), (writeOutput files (some output) source state).2) := by
  unfold writeOutput at h ⊢
  simp only at h ⊢
  split_ifs at h ⊢ with nul
  · cases h
  -- First the directories are made, then the file is written; a fault in either is the result.
  rw [bind_apply] at h ⊢
  generalize files.makeDirectories output.parent state = result at h ⊢
  obtain ⟨refused | made, before⟩ := result
  · cases h
  simp only at h ⊢
  rw [bind_apply] at h ⊢
  generalize wrote : files.write output _ before = result at h ⊢
  obtain ⟨refused | done, after⟩ := result
  · cases h
  · cases h
    exact ⟨rfl, before, wrote⟩

theorem reports_of_writable {label : String} {diagnostics : List Diagnostic}
    (writable : ∀ diagnostic ∈ diagnostics, diagnostic.location.isWritable = true) :
    Generation.reports label diagnostics = .ok (diagnostics.map (·.report label)) := by
  induction diagnostics with
  | nil => rfl
  | cons diagnostic diagnostics ih =>
    obtain ⟨here, later⟩ := List.forall_mem_cons.mp writable
    unfold Generation.reports at ih ⊢
    rw [List.mapM_cons, ih later, Diagnostic.checkedReport, if_pos here]
    rfl

def sourceOf (label : String) (entries : List Entry) : Except UsageError String := do
  SourceFile.assemble label (← Generation.outputsOf entries)

/-- What a run ends with when it has made the outputs into the source and written it to the path.
Every report is put in terms of the diagnostics, and each line with its end. -/
structure Reports (input : Path) (outputs : List EntryOutput) (source path : String)
    (diagnostics : List Diagnostic) (outcome : Outcome) : Prop where
  errors : outcome.errors = String.join (diagnostics.map (·.report input.name ++ "\n"))
  file : source = String.join ((SourceFile.headerLines input.name outputs.length ++
    outputs.flatMap (·.addedLines)).map (· ++ "\n"))
  compileErrors : (diagnostics.map (·.compileError)).Sublist (outputs.flatMap (·.addedLines))
  output : ∃ summary : Summary,
    outcome.output = parsingLine input ++ ("  Entries: " ++ toString outputs.length ++ "\n") ++
      ("  Generated: " ++ toString (outputs.map (·.items.length)).sum ++ " items, " ++
        toString diagnostics.length ++ " diagnostics\n") ++
      writtenLine (lineCount source) path ++ String.join (summary.lines.map (· ++ "\n")) ∧
    summary.counts.diagnostics = diagnostics.length ∧
    summary.lines.dropLast.getLast? = some ("  Diagnostics: " ++ toString diagnostics.length ++
      (if diagnostics = [] then "" else " (see stderr)"))
  code : outcome.code = if diagnostics = [] then 0 else 1

theorem generatedLine_eq (outputs : List EntryOutput) :
    generatedLine outputs =
      "  Generated: " ++ toString (outputs.map (·.items.length)).sum ++ " items, " ++
        toString (Generation.diagnosticsOf outputs).length ++ " diagnostics\n" := by
  rw [← List.length_flatMap]
  rfl

theorem diagnosticsRow_eq (diagnostics : List Diagnostic) :
    Summary.diagnosticsRow diagnostics.length =
      "  Diagnostics: " ++ toString diagnostics.length ++
        (if diagnostics = [] then "" else " (see stderr)") := by
  have none : (diagnostics.length : Int) = 0 ↔ diagnostics = [] := by simp
  exact congrArg (_ ++ ·) (if_congr none rfl rfl)

theorem exists_finished {input : Path} {outputs : List EntryOutput} {source path : String}
    (writable : ∀ diagnostic ∈ Generation.diagnosticsOf outputs,
      diagnostic.location.isWritable = true)
    (written : ∀ output ∈ outputs, output.lines ≠ [])
    (named : input.name ≠ "") (assembled : SourceFile.assemble input.name outputs = .ok source) :
    ∃ outcome,
      finished (parsingLine input ++ ("  Entries: " ++ toString outputs.length ++ "\n") ++
        generatedLine outputs) input.name path outputs (lineCount source) = .ok outcome ∧
      Reports input outputs source path (Generation.diagnosticsOf outputs) outcome := by
  have file := SourceFile.assemble_of_addedLines named written
  have rendered (summary : Summary) :
      summary.render = String.join (summary.lines.map (· ++ "\n")) := rfl
  rw [finished, reports_of_writable writable, generatedLine_eq]
  refine ⟨_, rfl, ?_, Except.ok.inj (assembled.symm.trans file),
    EntryOutput.compileErrors_sublist outputs, ?_, by simp only [List.isEmpty_iff]⟩
  · rw [Text.endLines, List.map_map]
    rfl
  · refine ⟨⟨input.name, path, Counts.ofOutputs outputs, lineCount source⟩, ?_, rfl, ?_⟩
    · rw [← rendered]
    · rw [← diagnosticsRow_eq]
      rfl

/-- All reports of a run agree on the diagnostics of the entries, and the file is written whether
there are any or not. It is taken for granted that writing the file succeeds and that no number in
a report is too long to be printed. -/
theorem run_reports {words : List String} {arguments : Arguments} {input output : Path}
    {content : Except FileError (List UInt8)} {entries : List Entry} {start configured loaded : σ}
    (readsFiles : files.ReadsFiles) (understood : Request.ofWords words = .ok (.run arguments))
    (config : arguments.config files start = (.ok (.generate input (some output)), configured))
    (read : files.read input configured = (content, loaded))
    (manifest : readManifest content = .ok entries)
    (writes : ∀ source, sourceOf input.name entries = .ok source →
      ∃ path, (writeOutput files (some output) source loaded).1 = .ok path)
    (writable : ∀ entry ∈ entries, ∀ generated, entry.generate = .ok generated →
      ∀ diagnostic ∈ generated.diagnostics, diagnostic.location.isWritable = true) :
    ∃ (outputs : List EntryOutput) (source : String) (outcome : Outcome) (before after : σ),
      List.Forall₂ (fun entry generated => entry.generate = .ok generated) entries outputs ∧
      files.write output source.toUTF8.toList before = (.ok (), after) ∧
      run files words start = (.ok outcome, (files.absolute output after).2) ∧
      Reports input outputs source (files.absolute output after).1
        (outputs.flatMap (·.diagnostics)) outcome := by
  obtain ⟨text, rfl⟩ := exists_of_config config
  obtain ⟨bytes, root, rfl, -, rooted⟩ := readManifest_eq_ok.mp manifest
  obtain ⟨outputs, generates⟩ := Generation.exists_outputs fun _ mem =>
    Manifest.wellFormed_of_entries rooted mem
  have generated := Generation.outputsOf_of_generates generates
  have each := Generation.outputsOf_eq_ok.mp generated
  have named : (Path.ofString text).name ≠ "" :=
    Path.name_ne_empty (readsFiles _ configured bytes (congrArg Prod.fst read))
  have filled : ∀ output ∈ outputs, output.lines ≠ [] := by
    intro output mem
    obtain ⟨entry, mem, here⟩ := Manifest.exists_of_mem_mapM generated mem
    exact Entry.lines_ne_nil_of_generate (Manifest.wellFormed_of_entries rooted mem).fits here
  have assembled := SourceFile.assemble_of_label named outputs
  -- The diagnostics of the outputs are those of the entries, so their places can be written.
  have places : ∀ diagnostic ∈ Generation.diagnosticsOf outputs,
      diagnostic.location.isWritable = true := by
    intro diagnostic mem
    obtain ⟨output, mem, reported⟩ := List.mem_flatMap.mp mem
    obtain ⟨entry, mem, here⟩ := Manifest.exists_of_mem_mapM generated mem
    exact writable entry mem output here diagnostic reported
  obtain ⟨path, wrote⟩ := writes _ (Markup.bind_eq_ok.mpr ⟨outputs, generated, assembled⟩)
  obtain ⟨rfl, before, written⟩ := write_of_writeOutput wrote
  obtain ⟨outcome, done, reports⟩ := exists_finished places filled named assembled
  refine ⟨outputs, _, outcome, before, _, each, written, ?_, reports⟩
  have entriesLine : entriesLine entries = "  Entries: " ++ toString outputs.length ++ "\n" := by
    rw [Command.entriesLine, each.length_eq]
  rw [run, understood]
  simp only [bind_apply, config, runConfig, runGenerate, read, manifest, generated, assembled,
    wrote, entriesLine, done, pure_apply]

def Workspace.ofManifest (text : String) : Workspace :=
  addFile ⟨"/work", []⟩ ["decls.xml"] text.toUTF8.toList

theorem run_reports_of_cancelled_platforms :
    ∃ (outcome : Outcome) (after : Workspace),
      run Workspace.fileSystem ["--input", "decls.xml", "--output", "gen.rs"]
        (.ofManifest "<manifest><mod name='net' options='exclude(all)'/></manifest>") =
          (.ok outcome, after) ∧
      outcome.errors = "decls.xml:0:0: error: " ++ Resolution.emptyMessage ++ "\n" ∧
      outcome.code = 1 := by
  generalize start : Workspace.ofManifest _ = workspace
  have understood : Request.ofWords ["--input", "decls.xml", "--output", "gen.rs"] =
      .ok (.run ⟨some (.text "decls.xml"), some (.text "gen.rs"), false, none⟩) :=
    eq_ok_of_toOption (by decide +kernel)
  have config : Arguments.config Workspace.fileSystem
      ⟨some (.text "decls.xml"), some (.text "gen.rs"), false, none⟩ workspace =
      (.ok (.generate (.ofString "decls.xml") (some (.ofString "gen.rs"))), workspace) := by
    subst start
    exact Prod.ext (eq_ok_of_toOption (by decide +kernel)) rfl
  have read : Workspace.fileSystem.read (.ofString "decls.xml") workspace =
      (.ok "<manifest><mod name='net' options='exclude(all)'/></manifest>".toUTF8.toList,
        workspace) := by
    subst start
    exact Prod.ext (eq_ok_of_toOption (by decide +kernel)) rfl
  have manifest : readManifest (.ok
      "<manifest><mod name='net' options='exclude(all)'/></manifest>".toUTF8.toList) =
      .ok [⟨.module, "exclude(all)", ⟨0, 0⟩, .module ⟨"net", "", [], false, none, ⟨0, 0⟩⟩⟩] :=
    eq_ok_of_toOption (by decide +kernel)
  have generated : Entry.generate
      ⟨.module, "exclude(all)", ⟨0, 0⟩, .module ⟨"net", "", [], false, none, ⟨0, 0⟩⟩⟩ =
      .ok ⟨.module, "net", [], [⟨Resolution.emptyMessage, ⟨0, 0⟩⟩]⟩ :=
    eq_ok_of_toOption (by decide +kernel)
  have written (source : String) :
      (writeOutput Workspace.fileSystem (some (.ofString "gen.rs")) source workspace).1 =
        .ok (.ofString "gen.rs") := by
    subst start
    with_unfolding_all rfl
  obtain ⟨outputs, source, outcome, before, after, each, -, ran, reports⟩ :=
    run_reports Workspace.readsFiles_fileSystem understood config read manifest
      (fun source _ => ⟨_, written source⟩) fun entry mem output here => by
        cases List.mem_singleton.mp mem
        cases generated.symm.trans here
        decide
  obtain ⟨output, others, here, none, rfl⟩ := List.forall₂_cons_left_iff.mp each
  cases none
  cases generated.symm.trans here
  exact ⟨outcome, _, ran, reports.errors.trans (by decide +kernel), reports.code⟩

end PlatformGate.Command
