import PlatformGate.Proofs.Completeness
import PlatformGate.Proofs.Text.Lines

/-! The layout of the generated file. Only the blank lines that are put between its parts separate
them, since no part has a blank line at its ends. For an item this rests on its guard at the one end
and at the other on a closing character or on a body, which the manifest gives without white space
at its ends. -/

namespace PlatformGate

open Text

theorem Text.endsSolid_append {text last : String} (h : EndsSolid last.toList) :
    EndsSolid (text ++ last).toList := by
  rw [String.toList_append]
  exact h.append text.toList

theorem GuardedFn.endsSolid_body {item : GuardedFn}
    (filled : ∀ body ∈ item.decl.body, Filled body) :
    ∃ line, item.body.getLast? = some line ∧ EndsSolid line.toList := by
  unfold body
  cases item.forward with
  | some call => exact ⟨"\x7d", rfl, '\x7d', rfl, rfl⟩
  | none =>
    cases held : item.decl.body with
    | some body => exact exists_getLast?_splitLines (endsSolid_append (filled body held).solid.2)
    | none => exact ⟨_, rfl, endsSolid_append ⟨';', rfl, rfl⟩⟩

theorem GuardedStruct.endsSolid_definition {item : GuardedStruct} (filled : Filled item.decl.body) :
    EndsSolid item.definition.toList := by
  have semicolon : EndsSolid ";".toList := ⟨';', rfl, rfl⟩
  simp only [definition]
  split_ifs with tuple unit
  · exact endsSolid_append semicolon
  · exact endsSolid_append semicolon
  · refine endsSolid_append ?_
    rw [String.toList_ofList, filled.trimmed_toList]
    exact filled.solid.2

namespace Item

def IsTrimmed : Item → Prop
  | function item => ∀ body ∈ item.decl.body, Filled body
  | struct item => Filled item.decl.body
  | _ => True

theorem exists_getLast?_lines {item : Item} (trimmed : item.IsTrimmed) :
    ∃ line, item.lines.getLast? = some line ∧ EndsSolid line.toList := by
  have below {above block : List String}
      (h : ∃ line, block.getLast? = some line ∧ EndsSolid line.toList) :
      ∃ line, (above ++ block).getLast? = some line ∧ EndsSolid line.toList := by
    obtain ⟨line, last, ends⟩ := h
    exact ⟨line, by simp [last], ends⟩
  have semicolon {text : String} : EndsSolid (text ++ ";").toList :=
    endsSolid_append ⟨';', rfl, rfl⟩
  cases item with
  | function item => exact below (GuardedFn.endsSolid_body trimmed)
  | struct item =>
    exact below (exists_getLast?_splitLines (GuardedStruct.endsSolid_definition trimmed))
  | typeAlias item => exact below ⟨_, rfl, semicolon⟩
  | assertion item => exact ⟨"\x7d;", rfl, ';', rfl, rfl⟩
  | module item => exact below ⟨_, rfl, semicolon⟩
  | moduleAlias item => exact below ⟨_, rfl, semicolon⟩

theorem solidLines_of_isTrimmed {item : Item} (trimmed : item.IsTrimmed) :
    SolidLines item.lines := by
  refine ⟨⟨_, item.head?_lines, '#', ?_, rfl⟩, exists_getLast?_lines trimmed⟩
  simp [renderCfg]

theorem isTrimmed_ofCallable {decl : Callable} (filled : ∀ body ∈ decl.body, Filled body)
    (guard : String) :
    ∀ item ∈ (GuardedFn.ofCallable decl guard).1.toList.map Item.function, item.IsTrimmed := by
  rw [GuardedFn.ofCallable_eq]
  split
  next => simp
  next => simpa [IsTrimmed] using filled

theorem isTrimmed_ofStruct {decl : StructDecl} (filled : Filled decl.body) (traits : List String)
    (resolution : Resolution) : ∀ item ∈ ofStruct decl traits resolution, item.IsTrimmed := by
  intro item mem
  rcases List.mem_append.mp mem with mem | mem
  · rcases List.mem_cons.mp mem with rfl | mem
    · exact filled
    · obtain ⟨platform, -, rfl⟩ := List.mem_map.mp mem
      trivial
  · obtain ⟨assertion, -, rfl⟩ := List.mem_map.mp (Option.toList_map .. ▸ mem)
    trivial

theorem isTrimmed_ofPortable (portableName : Except Diagnostic String) (visibility : String)
    (attributes : List String) (platforms : List Platform) :
    ∀ item ∈ (ofPortable portableName visibility attributes platforms).1, item.IsTrimmed := by
  cases portableName with
  | error => exact List.forall_mem_nil _
  | ok name =>
    intro item mem
    obtain ⟨platform, -, mem⟩ := List.mem_flatMap.mp mem
    simp only [ofModulePair, List.mem_cons, List.not_mem_nil, or_false] at mem
    rcases mem with rfl | rfl <;> trivial

end Item

namespace Entry

theorem isTrimmed_of_generateItems {kind : EntryKind} {declaration : Declaration}
    {traits : List String} {resolution : Resolution} {items : List Item}
    {diagnostics : List Diagnostic} (fits : kind.Fits declaration) (loaded : declaration.Loaded)
    (h : generateItems kind declaration traits resolution = .ok (items, diagnostics)) :
    ∀ item ∈ items, item.IsTrimmed := by
  cases fits with
  | function decl =>
    cases h
    exact Item.isTrimmed_ofCallable loaded.body resolution.guard
  | traitFunction decl =>
    cases h
    exact List.forall_mem_singleton.mpr loaded.body
  | struct decl =>
    cases h
    exact Item.isTrimmed_ofStruct loaded.body traits resolution
  | module decl =>
    have made : (Item.ofModule decl resolution.platforms).1 = items :=
      congrArg Prod.fst (Except.ok.inj h)
    exact made ▸ Item.isTrimmed_ofPortable decl.portableName decl.visibility decl.attributes
      resolution.platforms
  | use decl =>
    have made : (Item.ofUse decl resolution.platforms).1 = items :=
      congrArg Prod.fst (Except.ok.inj h)
    exact made ▸ Item.isTrimmed_ofPortable decl.portableName decl.visibility decl.attributes
      resolution.platforms

theorem Loaded.isTrimmed {entry : Entry} {output : EntryOutput} (loaded : entry.Loaded)
    (generated : entry.generate = .ok output) : ∀ item ∈ output.items, item.IsTrimmed := by
  rcases generate_cases generated with
    ⟨diagnostic, -, rfl⟩ | ⟨block, items, diagnostics, -, made, rfl⟩
  · exact List.forall_mem_nil _
  · exact isTrimmed_of_generateItems loaded.fits loaded.declaration made

end Entry

namespace EntryOutput

/-- All compiler errors stand first, each on a line of its own. The items follow, each behind a
blank line unless the section begins with it, and neither an item nor the section has a blank line
at its ends. -/
structure IsLaidOut (output : EntryOutput) : Prop where
  lines : output.lines =
    output.diagnosticLines ++ itemLines output.diagnosticLines.isEmpty output.items
  diagnostics : ∀ line ∈ output.diagnosticLines, '\n' ∉ line.toList ∧ SolidLines [line]
  items : ∀ item ∈ output.items, SolidLines item.lines
  whole : SolidLines output.lines

theorem solidLines_compileError (diagnostic : Diagnostic) :
    SolidLines [diagnostic.compileError] := by
  refine solidLines_singleton ⟨'c', ?_, rfl⟩ (endsSolid_append ⟨';', rfl, rfl⟩)
  simp [Diagnostic.toList_compileError]

theorem solidLines_itemLines {items : List Item}
    (solid : ∀ item ∈ items, SolidLines item.lines) {above : List String}
    (before : SolidLines above) : SolidLines (above ++ itemLines false items) := by
  induction items generalizing above with
  | nil => simpa [itemLines] using before
  | cons item items ih =>
    obtain ⟨here, later⟩ := List.forall_mem_cons.mp solid
    have further := ih later (before.append here [""])
    simpa [itemLines] using further

theorem isLaidOut_of_isTrimmed {output : EntryOutput}
    (trimmed : ∀ item ∈ output.items, item.IsTrimmed) (nonempty : output.lines ≠ []) :
    output.IsLaidOut := by
  have solid : ∀ item ∈ output.items, SolidLines item.lines := fun item mem =>
    Item.solidLines_of_isTrimmed (trimmed item mem)
  have errors : ∀ line ∈ output.diagnosticLines, '\n' ∉ line.toList ∧ SolidLines [line] := by
    intro line mem
    obtain ⟨diagnostic, -, rfl⟩ := List.mem_map.mp mem
    exact ⟨diagnostic.lineFeed_not_mem_compileError, solidLines_compileError diagnostic⟩
  have lines : output.lines =
      output.diagnosticLines ++ itemLines output.diagnosticLines.isEmpty output.items := by
    rw [lines_eq]
    simp [diagnosticLines]
  refine ⟨lines, errors, solid, ?_⟩
  rw [lines]
  by_cases clean : output.diagnosticLines = []
  · rw [lines, clean] at nonempty
    rw [clean]
    cases items : output.items with
    | nil => simp [items, itemLines] at nonempty
    | cons item items' =>
      obtain ⟨here, later⟩ := List.forall_mem_cons.mp (items ▸ solid)
      exact solidLines_itemLines later here
  · rw [List.isEmpty_eq_false_iff.mpr clean]
    exact solidLines_itemLines solid
      (solidLines_of_forall clean fun line mem => (errors line mem).2)

end EntryOutput

namespace SourceFile

theorem solidLines_headerLines (label : String) (entries : Int) :
    SolidLines (headerLines label entries) :=
  ⟨⟨border, rfl, '/', rfl, rfl⟩, border, rfl, '/', rfl, rfl⟩

theorem solidLines_flatMap {outputs : List EntryOutput}
    (solid : ∀ output ∈ outputs, SolidLines output.lines) {above : List String}
    (before : SolidLines above) : SolidLines (above ++ outputs.flatMap ("" :: ·.lines)) := by
  induction outputs generalizing above with
  | nil => simpa using before
  | cons output outputs ih =>
    obtain ⟨here, later⟩ := List.forall_mem_cons.mp solid
    have further := ih later (before.append here [""])
    simpa using further

/-- The file of the entries of a manifest is the header and then, behind a blank line each, the
sections of the entries in their order. It ends with one line feed, whatever the texts are. -/
theorem layout_of_entries {label : String} (named : label ≠ "") {loaded : List Entry}
    (known : ∀ entry ∈ loaded, entry.IsFromManifest) :
    ∃ outputs source,
      Generation.outputsOf loaded = .ok outputs ∧ assemble label outputs = .ok source ∧
      source = Text.endLines
        (headerLines label loaded.length ++ outputs.flatMap ("" :: ·.lines)) ∧
      (headerLines label loaded.length).length = 6 ∧
      (∀ output ∈ outputs, output.IsLaidOut) ∧
      ∃ front c, source.toList = front ++ [c, '\n'] ∧ c ≠ '\n' := by
  obtain ⟨outputs, generates⟩ := Generation.exists_outputs fun entry mem =>
    (known entry mem).wellFormed
  have generated := Generation.outputsOf_of_generates generates
  have laidOut : ∀ output ∈ outputs, output.IsLaidOut := by
    intro output mem
    obtain ⟨entry, mem', here⟩ := Manifest.exists_of_mem_mapM generated mem
    have loaded := (known entry mem').loaded
    exact EntryOutput.isLaidOut_of_isTrimmed (loaded.isTrimmed here)
      (Entry.lines_ne_nil_of_generate loaded.fits here)
  have sections : outputs.flatMap sectionLines = outputs.flatMap ("" :: ·.lines) :=
    List.flatMap_congr fun output mem => by
      rw [sectionLines, if_neg (by simpa using (laidOut output mem).whole.ne_nil)]
  have written : assemble label outputs = .ok (Text.endLines
      (headerLines label loaded.length ++ outputs.flatMap ("" :: ·.lines))) := by
    rw [assemble_of_label named, sections, generates.length_eq]
  have solid := solidLines_flatMap (fun output mem => (laidOut output mem).whole)
    (solidLines_headerLines label loaded.length)
  obtain ⟨front, c, ends, notBlank⟩ := solid.toList_endLines
  refine ⟨outputs, _, generated, written, rfl, rfl, laidOut, front, c, ends, ?_⟩
  rintro rfl
  cases notBlank

theorem layout_of_entries_with_fault :
    ∃ (loaded : List Entry) (outputs : List EntryOutput) (source : String),
      Manifest.entries ⟨"manifest", [], none,
        [⟨"mod", [("name", "net"), ("options", "include(\"\n\")")], none, []⟩,
          ⟨"function", [("name", "mark")], none, [⟨"body", [], some "\x7b\n\n\x7d\n\n", []⟩]⟩]⟩ =
            .ok loaded ∧
      Generation.outputsOf loaded = .ok outputs ∧ assemble "decls.xml" outputs = .ok source ∧
      (∀ output ∈ outputs, SolidLines output.lines) ∧
      ∃ front c, source.toList = front ++ [c, '\n'] ∧ c ≠ '\n' := by
  have read : Manifest.entries ⟨"manifest", [], none,
      [⟨"mod", [("name", "net"), ("options", "include(\"\n\")")], none, []⟩,
        ⟨"function", [("name", "mark")], none, [⟨"body", [], some "\x7b\n\n\x7d\n\n", []⟩]⟩]⟩ =
      .ok [⟨.module, "include(\"\n\")", ⟨0, 0⟩, .module ⟨"net", "", [], false, none, ⟨0, 0⟩⟩⟩,
        ⟨.function, "", ⟨0, 0⟩, .callable ⟨⟨"mark", ⟨[], []⟩, none, [], none, none, false, false,
          false, none⟩, "", [], some "\x7b\n\n\x7d", ⟨0, 0⟩⟩⟩] :=
    eq_ok_of_toOption (by decide +kernel)
  obtain ⟨outputs, source, generated, written, -, -, laidOut, ends⟩ :=
    layout_of_entries (show "decls.xml" ≠ "" by decide) fun entry mem => ⟨_, _, read, mem⟩
  exact ⟨_, outputs, source, read, generated, written, fun output mem => (laidOut output mem).whole,
    ends⟩

end SourceFile

end PlatformGate
