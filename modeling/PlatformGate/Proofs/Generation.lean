import PlatformGate.Generation
import PlatformGate.Proofs.Gating
import PlatformGate.Proofs.Manifest.Reading
import PlatformGate.Proofs.SourceFile

/-! No mistake of usage can come from a manifest. Each one that a stage may report is ruled out by
what an earlier stage has checked: unknown groups by the option parser, untyped parameters and
unrecognized trees by the reader, misplaced declarations by the kind of the entry. -/

namespace PlatformGate

theorem Group.ofKeywords_map (groups : List Group) :
    ofKeywords (groups.map keyword) = .ok groups := by
  induction groups with
  | nil => rfl
  | cons group groups ih =>
    unfold ofKeywords at ih ⊢
    rw [List.map_cons, List.mapM_cons, Options.ofKeyword?_eq_some.mpr rfl, ih]
    rfl

namespace Item

def params : Item → List GenericParam
  | function item => item.decl.signature.generics.params
  | struct item => item.decl.generics.params
  | typeAlias item => item.generics.params
  | assertion _ => []
  | module _ => []
  | moduleAlias _ => []

def AllMade (items : List Item) : Prop := ∀ item ∈ items, ∀ param ∈ item.params, param.IsMade

theorem allMade_ofCallable {decl : Callable} (made : decl.signature.generics.AllMade)
    (guard : String) :
    AllMade ((GuardedFn.ofCallable decl guard).1.toList.map Item.function) := by
  rw [GuardedFn.ofCallable_eq]
  split
  next => simp [AllMade]
  next => simpa [AllMade, params] using fun param mem => made param mem

theorem allMade_ofStruct {decl : StructDecl} (made : decl.generics.AllMade) (traits : List String)
    (resolution : Resolution) : AllMade (ofStruct decl traits resolution) := by
  intro item mem
  rcases List.mem_append.mp mem with mem | mem
  · rcases List.mem_cons.mp mem with rfl | mem
    · exact made
    · obtain ⟨platform, -, rfl⟩ := List.mem_map.mp mem
      intro plain mem
      obtain ⟨param, declared, rfl⟩ := List.mem_map.mp mem
      exact (made param declared).plain
  · obtain ⟨_, -, rfl⟩ := List.mem_map.mp (Option.toList_map .. ▸ mem)
    exact List.forall_mem_nil _

theorem allMade_ofPortable (portableName : Except Diagnostic String) (visibility : String)
    (attributes : List String) (platforms : List Platform) :
    AllMade (ofPortable portableName visibility attributes platforms).1 := by
  cases portableName with
  | error => exact List.forall_mem_nil _
  | ok name =>
    intro item mem
    obtain ⟨platform, -, mem⟩ := List.mem_flatMap.mp mem
    simp only [ofModulePair, List.mem_cons, List.not_mem_nil, or_false] at mem
    rcases mem with rfl | rfl
    · exact List.forall_mem_nil _
    · exact List.forall_mem_nil _

end Item

namespace Entry

theorem allMade_of_generateItems {kind : EntryKind} {declaration : Declaration}
    {traits : List String} {resolution : Resolution} {items : List Item}
    {diagnostics : List Diagnostic} (fits : kind.Fits declaration)
    (wellFormed : declaration.WellFormed)
    (h : generateItems kind declaration traits resolution = .ok (items, diagnostics)) :
    Item.AllMade items := by
  cases fits with
  | function decl =>
    cases h
    exact Item.allMade_ofCallable wellFormed.generics resolution.guard
  | traitFunction decl =>
    cases h
    exact List.forall_mem_singleton.mpr wellFormed.generics
  | struct decl =>
    cases h
    exact Item.allMade_ofStruct wellFormed traits resolution
  | module decl =>
    have made := Item.allMade_ofPortable decl.portableName decl.visibility decl.attributes
      resolution.platforms
    rwa [← Item.ofModule, Except.ok.inj h] at made
  | use decl =>
    have made := Item.allMade_ofPortable decl.portableName decl.visibility decl.attributes
      resolution.platforms
    rwa [← Item.ofUse, Except.ok.inj h] at made

/-- The entry is generated from without a mistake: its groups are known by their keywords, and
every item has what it is written with. -/
structure Generates (entry : Entry) (output : EntryOutput) : Prop where
  generate : entry.generate = .ok output
  resolve : ∀ block, entry.options = .ok block →
    Resolution.ofKeywords (block.included.map Group.keyword) (block.excluded.map Group.keyword)
      block.location = .ok block.resolve
  params : Item.AllMade output.items
  lines : ∀ item ∈ output.items, item.lines.head? = some (renderCfg item.guard)

theorem WellFormed.exists_generates {entry : Entry} (wellFormed : entry.WellFormed) :
    ∃ output, entry.Generates output := by
  have resolve (block : OptionBlock) : Resolution.ofKeywords (block.included.map Group.keyword)
      (block.excluded.map Group.keyword) block.location = .ok block.resolve := by
    rw [Resolution.ofKeywords, Group.ofKeywords_map, Group.ofKeywords_map]
    rfl
  cases parsed : entry.options with
  | error diagnostic =>
    refine ⟨⟨entry.kind, entry.declaration.name, [], [diagnostic]⟩, ?_,
      fun block _ => resolve block, List.forall_mem_nil _, List.forall_mem_nil _⟩
    simp only [generate, parsed]
  | ok block =>
    obtain ⟨layout, diagnostics, items, -⟩ := exists_layout wellFormed.fits block
    refine ⟨⟨entry.kind, entry.declaration.name, layout.items,
      block.resolve.diagnostic.toList ++ diagnostics⟩, ?_, fun block _ => resolve block,
      allMade_of_generateItems wellFormed.fits wellFormed.declaration items,
      fun item _ => item.head?_lines⟩
    simp only [generate, parsed, items]

end Entry

namespace Generation

theorem outputsOf_eq_ok {loaded : List Entry} {outputs : List EntryOutput} :
    outputsOf loaded = .ok outputs ↔
      List.Forall₂ (fun entry output => entry.generate = .ok output) loaded outputs :=
  Manifest.mapM_eq_ok

theorem outputsOf_of_generates {loaded : List Entry} {outputs : List EntryOutput}
    (h : List.Forall₂ Entry.Generates loaded outputs) : outputsOf loaded = .ok outputs :=
  outputsOf_eq_ok.mpr (h.imp fun _ _ here => here.generate)

theorem exists_outputs {loaded : List Entry} (wellFormed : ∀ entry ∈ loaded, entry.WellFormed) :
    ∃ outputs, List.Forall₂ Entry.Generates loaded outputs := by
  induction loaded with
  | nil => exact ⟨[], .nil⟩
  | cons entry loaded ih =>
    obtain ⟨here, later⟩ := List.forall_mem_cons.mp wellFormed
    obtain ⟨output, generates⟩ := here.exists_generates
    obtain ⟨outputs, others⟩ := ih later
    exact ⟨output :: outputs, .cons generates others⟩

open Manifest

/-- A manifest is refused at a place that can be written, or every entry is generated from and a
file is put together under every name. -/
theorem refused_or_generated (root : Markup.Element) :
    (∀ element enclosing param, genericParam element enclosing = .ok param → param.IsMade) ∧
    ((∃ error, entries root = .error error ∧ error.location.isWritable = true) ∨
      ∃ (loaded : List Entry) (outputs : List EntryOutput),
        entries root = .ok loaded ∧ (∀ entry ∈ loaded, entry.WellFormed) ∧
        List.Forall₂ Entry.Generates loaded outputs ∧
        ∀ label, label ≠ "" →
          ∃ source, SourceFile.assemble label outputs = .ok source ∧
            ofRoot label root = .ok ⟨outputs, source⟩) := by
  refine ⟨fun _ _ _ read => isMade_of_genericParam read, ?_⟩
  cases read : entries root with
  | error error => exact .inl ⟨error, rfl, isWritable_of_entries read⟩
  | ok loaded =>
    have wellFormed : ∀ entry ∈ loaded, entry.WellFormed := fun _ mem =>
      wellFormed_of_entries read mem
    obtain ⟨outputs, generates⟩ := exists_outputs wellFormed
    have generated := outputsOf_of_generates generates
    refine .inr ⟨loaded, outputs, rfl, wellFormed, generates, fun label named =>
      ⟨_, SourceFile.assemble_of_label named outputs, ?_⟩⟩
    simp only [ofRoot, read, generated, SourceFile.assemble_of_label named outputs]

theorem generated_with_const_generic :
    ∃ (outputs : List EntryOutput) (source : String),
      ofRoot "platforms.xml" ⟨"manifest", [], none, [⟨"struct", [("name", "Ring")], none,
        [⟨"generic", [("kind", "const"), ("name", "N"), ("type", "usize")], none, []⟩]⟩]⟩ =
          .ok ⟨outputs, source⟩ := by
  have read : (entries ⟨"manifest", [], none, [⟨"struct", [("name", "Ring")], none,
      [⟨"generic", [("kind", "const"), ("name", "N"), ("type", "usize")], none, []⟩]⟩]⟩).toOption ≠
        none := by decide +kernel
  rcases (refused_or_generated _).2 with
    ⟨error, refused, -⟩ | ⟨loaded, outputs, -, -, -, assembled⟩
  · exact absurd (congrArg Except.toOption refused) read
  · obtain ⟨source, -, generated⟩ := assembled "platforms.xml" (by decide)
    exact ⟨outputs, source, generated⟩

end Generation

end PlatformGate
