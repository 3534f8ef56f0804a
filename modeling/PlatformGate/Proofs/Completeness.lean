import PlatformGate.Proofs.Generation

/-! No declaration is lost. Whatever keeps an entry from all the items of its kind is reported by a
diagnostic, so every entry of a manifest has a section in the file. -/

namespace PlatformGate

/-- The items are all that an entry of the kind calls for on the platforms of the block. -/
def IsComplete (block : OptionBlock) : EntryKind → List Item → Prop
  | .function, items => ∃ fn : GuardedFn, items = [.function fn]
  | .traitFunction, items => ∃ fn : GuardedFn, items = [.function fn]
  | .struct, items =>
    items.length = 1 + block.resolve.platforms.length + if block.traits = [] then 0 else 1
  | .module, items => items.length = 2 * block.resolve.platforms.length
  | .use, items => items.length = 2 * block.resolve.platforms.length
  | .unknown _, _ => False

theorem IsComplete.ne_nil {block : OptionBlock} {kind : EntryKind} {items : List Item}
    (complete : IsComplete block kind items) (supported : block.resolve.platforms ≠ []) :
    items ≠ [] := by
  have some : 0 < block.resolve.platforms.length := List.length_pos_iff.mpr supported
  rintro rfl
  cases kind with
  | function => simp [IsComplete] at complete
  | traitFunction => simp [IsComplete] at complete
  | struct =>
    simp only [IsComplete, List.length_nil] at complete
    omega
  | module =>
    simp only [IsComplete, List.length_nil] at complete
    omega
  | use =>
    simp only [IsComplete, List.length_nil] at complete
    omega
  | unknown => exact complete

/-- Only a variadic keeps a function from being written, and it is reported. -/
theorem GuardedFn.exists_of_unreported {decl : Callable} {guard : String}
    (unreported : (ofCallable decl guard).2 = []) : ∃ fn, (ofCallable decl guard).1 = some fn := by
  unfold ofCallable at unreported ⊢
  split_ifs at unreported ⊢ with written variadic
  · exact ⟨_, rfl⟩
  · obtain ⟨argument, taken⟩ := Option.isSome_iff_exists.mp variadic
    simp [Callable.variadicDiagnostics, taken] at unreported
  · exact ⟨_, rfl⟩

namespace Item

theorem length_ofStruct (decl : StructDecl) (traits : List String) (resolution : Resolution) :
    (ofStruct decl traits resolution).length =
      1 + resolution.platforms.length + if traits = [] then 0 else 1 := by
  unfold ofStruct TraitAssertion.ofStruct
  by_cases none : traits = []
  · simp [none, Nat.add_comm]
  · simp [none, Nat.add_comm]

theorem length_flatMap_modulePair (visibility : String) (attributes : List String) (name : String)
    (platforms : List Platform) :
    (platforms.flatMap fun p => ofModulePair (modulePair visibility attributes name p)).length =
      2 * platforms.length := by
  simp [List.length_flatMap, ofModulePair, Nat.mul_comm]

theorem length_ofPortable {portableName : Except Diagnostic String} {visibility : String}
    {attributes : List String} {platforms : List Platform}
    (unreported : (ofPortable portableName visibility attributes platforms).2 = []) :
    (ofPortable portableName visibility attributes platforms).1.length = 2 * platforms.length := by
  cases portableName with
  | error diagnostic => cases unreported
  | ok name => exact length_flatMap_modulePair visibility attributes name platforms

end Item

namespace Entry

theorem isComplete_of_generateItems {kind : EntryKind} {declaration : Declaration}
    {block : OptionBlock} {items : List Item} (fits : kind.Fits declaration)
    (h : generateItems kind declaration block.traits block.resolve = .ok (items, [])) :
    IsComplete block kind items := by
  cases fits with
  | function decl =>
    have made : ((GuardedFn.ofCallable decl block.resolve.guard).1.toList.map Item.function,
        (GuardedFn.ofCallable decl block.resolve.guard).2) = (items, []) := Except.ok.inj h
    obtain ⟨rfl, unreported⟩ := Prod.mk.inj made
    obtain ⟨fn, written⟩ := GuardedFn.exists_of_unreported unreported
    exact ⟨fn, by rw [written]; rfl⟩
  | traitFunction decl =>
    cases h
    exact ⟨_, rfl⟩
  | struct decl =>
    cases h
    exact Item.length_ofStruct decl block.traits block.resolve
  | module decl =>
    obtain ⟨made, unreported⟩ := Prod.mk.inj (Except.ok.inj h)
    exact made ▸ Item.length_ofPortable unreported
  | use decl =>
    obtain ⟨made, unreported⟩ := Prod.mk.inj (Except.ok.inj h)
    exact made ▸ Item.length_ofPortable unreported

theorem generate_cases {entry : Entry} {output : EntryOutput} (h : entry.generate = .ok output) :
    (∃ diagnostic, entry.options = .error diagnostic ∧
      output = ⟨entry.kind, entry.declaration.name, [], [diagnostic]⟩) ∨
    ∃ block items diagnostics, entry.options = .ok block ∧
      generateItems entry.kind entry.declaration block.traits block.resolve =
        .ok (items, diagnostics) ∧
      output = ⟨entry.kind, entry.declaration.name, items,
        block.resolve.diagnostic.toList ++ diagnostics⟩ := by
  unfold generate at h
  simp only at h
  split at h
  next diagnostic parsed =>
    cases h
    exact .inl ⟨diagnostic, parsed, rfl⟩
  next block parsed =>
    split at h
    next => cases h
    next items diagnostics made =>
      cases h
      exact .inr ⟨block, items, diagnostics, parsed, made, rfl⟩

theorem exists_isComplete {entry : Entry} {output : EntryOutput}
    (fits : entry.kind.Fits entry.declaration) (generated : entry.generate = .ok output)
    (unreported : output.diagnostics = []) :
    ∃ block, entry.options = .ok block ∧ block.resolve.platforms ≠ [] ∧
      IsComplete block entry.kind output.items := by
  rcases generate_cases generated with
    ⟨diagnostic, -, rfl⟩ | ⟨block, items, diagnostics, parsed, made, rfl⟩
  · cases unreported
  · obtain ⟨resolved, rfl⟩ := List.append_eq_nil_iff.mp unreported
    refine ⟨block, parsed, fun none => ?_, isComplete_of_generateItems fits made⟩
    have reported := Resolution.diagnostic_ofGroups.mpr ⟨none, rfl⟩
    rw [OptionBlock.resolve, reported] at resolved
    cases resolved

end Entry

theorem EntryOutput.lines_eq_nil {output : EntryOutput} :
    output.lines = [] ↔ output.items = [] ∧ output.diagnostics = [] := by
  rw [lines_eq, List.append_eq_nil_iff, diagnosticLines, List.map_eq_nil_iff]
  cases output.items with
  | nil => simp [itemLines]
  | cons item items =>
    have written := item.lines_ne_nil
    simp only [itemLines, List.append_eq_nil_iff]
    split_ifs <;> simp [written]

namespace Entry

theorem ne_nil_of_generate {entry : Entry} {output : EntryOutput}
    (fits : entry.kind.Fits entry.declaration) (generated : entry.generate = .ok output) :
    output.items ≠ [] ∨ output.diagnostics ≠ [] := by
  by_cases unreported : output.diagnostics = []
  · obtain ⟨block, -, supported, complete⟩ := exists_isComplete fits generated unreported
    exact .inl (complete.ne_nil supported)
  · exact .inr unreported

theorem lines_ne_nil_of_generate {entry : Entry} {output : EntryOutput}
    (fits : entry.kind.Fits entry.declaration) (generated : entry.generate = .ok output) :
    output.lines ≠ [] := by
  intro none
  obtain ⟨items, diagnostics⟩ := EntryOutput.lines_eq_nil.mp none
  exact (ne_nil_of_generate fits generated).elim (· items) (· diagnostics)

end Entry

namespace SourceFile

def sections (outputs : List EntryOutput) : List (List String) :=
  (outputs.map EntryOutput.lines).filter (· ≠ [])

theorem sections_of_lines {outputs : List EntryOutput}
    (written : ∀ output ∈ outputs, output.lines ≠ []) :
    sections outputs = outputs.map EntryOutput.lines :=
  List.filter_eq_self.mpr fun lines mem => by
    obtain ⟨output, mem', rfl⟩ := List.mem_map.mp mem
    exact decide_eq_true (written output mem')

theorem assemble_of_addedLines {label : String} (named : label ≠ "") {outputs : List EntryOutput}
    (written : ∀ output ∈ outputs, output.lines ≠ []) :
    assemble label outputs = .ok (Text.endLines
      (headerLines label outputs.length ++ outputs.flatMap (·.addedLines))) := by
  have added : outputs.flatMap sectionLines = outputs.flatMap (·.addedLines) :=
    List.flatMap_congr fun output mem => by
      rw [sectionLines, if_neg (by simpa using written output mem), output.lines_eq]
      rfl
  rw [assemble_of_label named, added]

theorem flatMap_sections {outputs : List EntryOutput}
    (written : ∀ output ∈ outputs, output.lines ≠ []) :
    (sections outputs).flatMap ("" :: ·) = outputs.flatMap (·.addedLines) := by
  rw [sections_of_lines written, List.flatMap_map]
  exact List.flatMap_congr fun output _ => by rw [output.lines_eq]; rfl

end SourceFile

namespace Generation

open Manifest

/-- Every entry of a manifest comes to an item or to a diagnostic, and to all its items if there is
no diagnostic. No section is left out of the file, and a line of the header tells their number. -/
theorem nothing_dropped {root : Markup.Element} {loaded : List Entry}
    (h : entries root = .ok loaded) :
    ∃ outputs : List EntryOutput,
      List.Forall₂ (fun entry output => entry.generate = .ok output ∧
        (output.items ≠ [] ∨ output.diagnostics ≠ []) ∧
        (output.diagnostics = [] → ∃ block, entry.options = .ok block ∧
          block.resolve.platforms ≠ [] ∧ IsComplete block entry.kind output.items))
        loaded outputs ∧
      (∀ output ∈ outputs, SourceFile.sectionLines output = "" :: output.lines) ∧
      (SourceFile.sections outputs).length = loaded.length ∧
      ∀ label, label ≠ "" → ∃ header : List String,
        header = SourceFile.headerLines label (SourceFile.sections outputs).length ∧
        header[4]? = some ("// | Entries: " ++ toString (SourceFile.sections outputs).length) ∧
        ofRoot label root = .ok ⟨outputs, String.join
          ((header ++ (SourceFile.sections outputs).flatMap ("" :: ·)).map (· ++ "\n"))⟩ := by
  have wellFormed : ∀ entry ∈ loaded, entry.WellFormed := fun _ mem => wellFormed_of_entries h mem
  obtain ⟨outputs, generates⟩ := exists_outputs wellFormed
  have generated := outputsOf_of_generates generates
  have written : ∀ output ∈ outputs, output.lines ≠ [] := by
    intro output mem
    obtain ⟨entry, mem, here⟩ := exists_of_mem_mapM generated mem
    exact Entry.lines_ne_nil_of_generate (wellFormed entry mem).fits here
  have number : (SourceFile.sections outputs).length = outputs.length := by
    rw [SourceFile.sections_of_lines written, List.length_map]
  refine ⟨outputs, ?_, fun output mem => ?_, number.trans generates.length_eq.symm,
    fun label named => ⟨_, rfl, rfl, ?_⟩⟩
  · refine List.forall₂_iff_get.mpr ⟨generates.length_eq, fun i hi hi' => ?_⟩
    have here := (generates.get hi hi').generate
    have fits := (wellFormed _ (List.get_mem loaded ⟨i, hi⟩)).fits
    exact ⟨here, Entry.ne_nil_of_generate fits here, Entry.exists_isComplete fits here⟩
  · rw [SourceFile.sectionLines, if_neg (by simpa using written output mem)]
  · simp only [ofRoot, h, generated, SourceFile.assemble_of_addedLines named written, number,
      SourceFile.flatMap_sections written, Text.endLines]

theorem nothing_dropped_of_cancelled_platforms :
    ∃ (struct module : EntryOutput) (source : String) (header rest : List String),
      ofRoot "decls.xml" ⟨"manifest", [], none,
        [⟨"struct", [("name", "Handle"), ("options", "traits(Send)")], none, []⟩,
          ⟨"mod", [("name", "net"), ("options", "exclude(all)")], none, []⟩]⟩ =
            .ok ⟨[struct, module], source⟩ ∧
      struct.items.length = 5 ∧ (module.items ≠ [] ∨ module.diagnostics ≠ []) ∧
        (SourceFile.sections [struct, module]).length = 2 ∧
        source = String.join ((header ++ rest).map (· ++ "\n")) ∧
        header[4]? = some "// | Entries: 2" := by
  have read : entries ⟨"manifest", [], none,
      [⟨"struct", [("name", "Handle"), ("options", "traits(Send)")], none, []⟩,
        ⟨"mod", [("name", "net"), ("options", "exclude(all)")], none, []⟩]⟩ =
      .ok [⟨.struct, "traits(Send)", ⟨0, 0⟩, .struct ⟨"Handle", "", [], ⟨[], []⟩, ";", ⟨0, 0⟩⟩⟩,
        ⟨.module, "exclude(all)", ⟨0, 0⟩, .module ⟨"net", "", [], false, none, ⟨0, 0⟩⟩⟩] :=
    eq_ok_of_toOption (by decide +kernel)
  have parsed : OptionBlock.parse "traits(Send)" true ⟨0, 0⟩ =
      .ok ⟨[.all], [], ["Send"], ⟨0, 0⟩⟩ := eq_ok_of_toOption (by decide +kernel)
  have unreported : (Entry.generate ⟨.struct, "traits(Send)", ⟨0, 0⟩,
      .struct ⟨"Handle", "", [], ⟨[], []⟩, ";", ⟨0, 0⟩⟩⟩).toOption.map (·.diagnostics) =
      some [] := by decide +kernel
  obtain ⟨outputs, each, -, number, file⟩ := nothing_dropped read
  obtain ⟨struct, _, ⟨generated, -, complete⟩, later, rfl⟩ := List.forall₂_cons_left_iff.mp each
  obtain ⟨module, _, ⟨-, kept, -⟩, none, rfl⟩ := List.forall₂_cons_left_iff.mp later
  cases none
  rw [generated] at unreported
  obtain ⟨block, same, -, all⟩ := complete (Option.some.inj unreported)
  cases parsed.symm.trans same
  obtain ⟨header, -, told, file⟩ := file "decls.xml" (by decide)
  rw [number] at told
  exact ⟨struct, module, _, header, _, file, all, kept, number, rfl, told⟩

end Generation

end PlatformGate
