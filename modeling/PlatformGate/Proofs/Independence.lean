import PlatformGate.Proofs.Generation
import PlatformGate.Proofs.Text.Lines

/-! Entries of a manifest have no effect on each other. Each is loaded, generated and laid out as in
a manifest that it has to itself, and the file is the sections of the entries below a header that
knows only how many they are. -/

namespace PlatformGate

open Markup

section Lists

variable {α β γ : Type} {R : α → β → Prop} {xs : List α} {ys : List β}

theorem forall₂_exists_iff {S : β → γ → Prop} {zs : List γ} :
    List.Forall₂ (fun x z => ∃ y, R x y ∧ S y z) xs zs ↔
      ∃ ys, List.Forall₂ R xs ys ∧ List.Forall₂ S ys zs := by
  constructor
  · intro h
    induction h with
    | nil => exact ⟨[], .nil, .nil⟩
    | cons here _ ih =>
      obtain ⟨y, first, second⟩ := here
      obtain ⟨ys, firsts, seconds⟩ := ih
      exact ⟨y :: ys, .cons first firsts, .cons second seconds⟩
  · rintro ⟨ys, firsts, seconds⟩
    induction firsts generalizing zs with
    | nil =>
      cases seconds
      exact .nil
    | cons first _ ih =>
      cases seconds with
      | cons second seconds => exact .cons ⟨_, first, second⟩ (ih seconds)

theorem exists_getElem?_of_forall₂ (h : List.Forall₂ R xs ys) {i : Nat} {x : α}
    (here : xs[i]? = some x) : ∃ y, ys[i]? = some y ∧ R x y := by
  induction h generalizing i with
  | nil => simp at here
  | cons related _ ih =>
    cases i with
    | zero =>
      cases here
      exact ⟨_, rfl, related⟩
    | succ i => exact ih here

theorem exists_forall₂_of_positions (h : List.Forall₂ R xs ys) {positions : List Nat}
    {picked : List α} (here : picked.map some = positions.map (xs[·]?)) :
    ∃ related, related.map some = positions.map (ys[·]?) ∧ List.Forall₂ R picked related := by
  induction positions generalizing picked with
  | nil =>
    rw [List.map_nil, List.map_eq_nil_iff] at here
    exact ⟨[], rfl, here ▸ .nil⟩
  | cons i positions ih =>
    obtain ⟨x, others, rfl, first, later⟩ := List.map_eq_cons_iff.mp here
    obtain ⟨y, found, isRelated⟩ := exists_getElem?_of_forall₂ h first.symm
    obtain ⟨related, same, all⟩ := ih later
    exact ⟨y :: related, by rw [List.map_cons, List.map_cons, found, same], .cons isRelated all⟩

end Lists

namespace Manifest

def single (child : Element) : Element := ⟨rootTag, [], none, [child]⟩

theorem entries_of_tag {root : Element} (manifest : root.tag = rootTag) :
    entries root = root.children.mapM entry := if_pos manifest

theorem entries_single (child : Element) :
    entries (single child) = List.singleton <$> entry child := by
  rw [entries_of_tag rfl, single, List.mapM_cons, List.mapM_nil]
  cases entry child <;> rfl

theorem entries_single_eq_ok {child : Element} {read : Entry} :
    entries (single child) = .ok [read] ↔ entry child = .ok read := by
  rw [entries_single, map_eq_ok]
  simp [List.singleton]

theorem entries_single_eq_error {child : Element} {error : Error} :
    entries (single child) = .error error ↔ entry child = .error error := by
  rw [entries_single]
  cases entry child <;> simp [Functor.map, Except.map]

end Manifest

namespace SourceFile

def headerText (label : String) (entries : Int) : String :=
  Text.endLines (headerLines label entries)

def sectionText (output : EntryOutput) : String := Text.endLines (sectionLines output)

def fileText (label : String) (outputs : List EntryOutput) : String :=
  headerText label outputs.length ++ String.join (outputs.map sectionText)

theorem endLines_sections (outputs : List EntryOutput) :
    Text.endLines (outputs.flatMap sectionLines) = String.join (outputs.map sectionText) := by
  induction outputs with
  | nil => rfl
  | cons output outputs ih =>
    rw [List.flatMap_cons, Text.endLines_append, ih, List.map_cons, String.join_cons]
    rfl

theorem assemble_eq_ok {label source : String} {outputs : List EntryOutput} :
    assemble label outputs = .ok source ↔ label ≠ "" ∧ source = fileText label outputs := by
  by_cases named : label = ""
  · simp [assemble, header, named]
  · rw [assemble_of_label named, Text.endLines_append, endLines_sections]
    simp [fileText, headerText, named, eq_comm]

end SourceFile

namespace Generation

open Manifest SourceFile

/-- The output of a child, in whatever manifest it stands. -/
def Yields (child : Element) (output : EntryOutput) : Prop :=
  ∃ read, entry child = .ok read ∧ read.generate = .ok output

theorem Yields.unique {child : Element} {output other : EntryOutput} (h : Yields child output)
    (h' : Yields child other) : output = other := by
  obtain ⟨read, loaded, generated⟩ := h
  obtain ⟨read', loaded', generated'⟩ := h'
  cases loaded.symm.trans loaded'
  cases generated.symm.trans generated'
  rfl

theorem ofRoot_eq_ok {label : String} {root : Element} (manifest : root.tag = rootTag)
    {generation : Generation} :
    ofRoot label root = .ok generation ↔ label ≠ "" ∧
      List.Forall₂ Yields root.children generation.outputs ∧
      generation.source = fileText label generation.outputs := by
  constructor
  · intro h
    unfold ofRoot at h
    split at h
    next => cases h
    next loaded read =>
      split at h
      next => cases h
      next outputs generated =>
        split at h
        next => cases h
        next source assembled =>
          cases h
          rw [entries_of_tag manifest] at read
          obtain ⟨named, text⟩ := assemble_eq_ok.mp assembled
          exact ⟨named,
            forall₂_exists_iff.mpr ⟨loaded, mapM_eq_ok.mp read, mapM_eq_ok.mp generated⟩, text⟩
  · intro h
    obtain ⟨named, each, text⟩ := h
    obtain ⟨loaded, read, generated⟩ := forall₂_exists_iff.mp each
    have read : entries root = .ok loaded := by
      rw [entries_of_tag manifest]
      exact mapM_eq_ok.mpr read
    have generated : outputsOf loaded = .ok generation.outputs := mapM_eq_ok.mpr generated
    simp only [ofRoot, read, generated, assemble_eq_ok.mpr ⟨named, text⟩]

theorem ofRoot_single_eq_ok {label : String} {child : Element} {output : EntryOutput} :
    ofRoot label (single child) = .ok ⟨[output], fileText label [output]⟩ ↔
      label ≠ "" ∧ Yields child output := by
  rw [ofRoot_eq_ok rfl]
  simp [single]

theorem exists_yields {root : Element} {loaded : List Entry} (h : entries root = .ok loaded)
    (manifest : root.tag = rootTag) : ∃ outputs, List.Forall₂ Yields root.children outputs := by
  obtain ⟨outputs, generates⟩ := exists_outputs fun _ mem => wellFormed_of_entries h mem
  rw [entries_of_tag manifest] at h
  have generated : List.Forall₂ (fun read output => read.generate = .ok output) loaded outputs :=
    generates.imp fun _ _ here => here.generate
  exact ⟨outputs, forall₂_exists_iff.mpr ⟨loaded, mapM_eq_ok.mp h, generated⟩⟩

def sectionTexts (generation : Generation) : List String := generation.outputs.map sectionText

theorem exists_shared {children others : List Element} {generation other : Generation}
    (each : List.Forall₂ Yields children generation.outputs)
    (eachOther : List.Forall₂ Yields others other.outputs) {i j : Nat} {child : Element}
    (here : children[i]? = some child) (there : others[j]? = some child) :
    ∃ output text, generation.outputs[i]? = some output ∧ other.outputs[j]? = some output ∧
      generation.sectionTexts[i]? = some text ∧ other.sectionTexts[j]? = some text := by
  obtain ⟨output, found, yielded⟩ := exists_getElem?_of_forall₂ each here
  obtain ⟨output', found', yielded'⟩ := exists_getElem?_of_forall₂ eachOther there
  cases yielded.unique yielded'
  refine ⟨output, sectionText output, found, found', ?_, ?_⟩
  · rw [sectionTexts, List.getElem?_map, found, Option.map_some]
  · rw [sectionTexts, List.getElem?_map, found', Option.map_some]

/-- Each entry of a manifest is loaded, generated and laid out as if it were the only one, and the
first that cannot be loaded alone is the reason to refuse the manifest. So manifests that share a
child agree on what it turns into, and to reorder the children reorders the sections alone. -/
theorem entries_independent {root : Element} (manifest : root.tag = rootTag) :
    (∀ loaded, entries root = .ok loaded ↔
      List.Forall₂ (fun child read => entries (single child) = .ok [read]) root.children loaded) ∧
    (∀ error, entries root = .error error ↔ ∃ before child after,
      root.children = before ++ child :: after ∧
      (∀ earlier ∈ before, ∃ read, entries (single earlier) = .ok [read]) ∧
      entries (single child) = .error error) ∧
    (∀ loaded label, entries root = .ok loaded → label ≠ "" → ∃ outputs,
      ofRoot label root = .ok ⟨outputs, fileText label outputs⟩ ∧
      List.Forall₂ (fun child output =>
        ofRoot label (single child) = .ok ⟨[output], fileText label [output]⟩)
        root.children outputs) ∧
    ∀ label generation, ofRoot label root = .ok generation →
      ∀ other : Element, other.tag = rootTag →
        (∀ otherLabel otherGeneration, ofRoot otherLabel other = .ok otherGeneration →
          ∀ (i j : Nat) (child : Element), root.children[i]? = some child →
            other.children[j]? = some child → ∃ output text,
              generation.outputs[i]? = some output ∧ otherGeneration.outputs[j]? = some output ∧
              generation.sectionTexts[i]? = some text ∧
              otherGeneration.sectionTexts[j]? = some text) ∧
        ∀ positions : List Nat, positions.Perm (List.range root.children.length) →
          other.children.map some = positions.map (root.children[·]?) →
          ∃ moved, ofRoot label other = .ok moved ∧
            moved.outputs.map some = positions.map (generation.outputs[·]?) ∧
            moved.sectionTexts.map some = positions.map (generation.sectionTexts[·]?) ∧
            generation.source = headerText label root.children.length ++
              String.join generation.sectionTexts ∧
            moved.source = headerText label root.children.length ++
              String.join moved.sectionTexts := by
  refine ⟨fun loaded => ?_, fun error => ?_, fun loaded label h named => ?_,
    fun label generation h other otherManifest => ⟨?_, fun positions reordered here => ?_⟩⟩
  · simp only [entries_of_tag manifest, mapM_eq_ok, entries_single_eq_ok]
  · simp only [entries_of_tag manifest, mapM_eq_error, entries_single_eq_ok,
      entries_single_eq_error]
  · obtain ⟨outputs, each⟩ := exists_yields h manifest
    exact ⟨outputs, (ofRoot_eq_ok manifest).mpr ⟨named, each, rfl⟩,
      each.imp fun _ _ yielded => ofRoot_single_eq_ok.mpr ⟨named, yielded⟩⟩
  · intro otherLabel otherGeneration h' i j child
    obtain ⟨-, each, -⟩ := (ofRoot_eq_ok manifest).mp h
    obtain ⟨-, eachOther, -⟩ := (ofRoot_eq_ok otherManifest).mp h'
    exact exists_shared each eachOther
  -- The outputs of the reordered manifest stand at the positions that its children come from.
  · obtain ⟨named, each, text⟩ := (ofRoot_eq_ok manifest).mp h
    obtain ⟨outputs, moved, eachMoved⟩ := exists_forall₂_of_positions each here
    have number : outputs.length = root.children.length := by
      have lengths := congrArg List.length moved
      simpa [reordered.length_eq] using lengths
    refine ⟨⟨outputs, fileText label outputs⟩,
      (ofRoot_eq_ok otherManifest).mpr ⟨named, eachMoved, rfl⟩, moved, ?_, ?_, ?_⟩
    · have texts := congrArg (List.map (Option.map sectionText)) moved
      simpa [sectionTexts, Function.comp_def] using texts
    · rw [text, fileText, each.length_eq]
      rfl
    · rw [fileText, number]
      rfl

theorem entries_independent_of_swapped_entries :
    entries ⟨"manifest", [], none,
      [⟨"mod", [("name", "net"), ("line", "2")], none, []⟩,
        ⟨"mod", [("line", "9"), ("column", "4")], none, []⟩, ⟨"enum", [], none, []⟩]⟩ =
          .error ⟨.missingAttribute "mod" "name", ⟨9, 4⟩⟩ ∧
    ∃ handle net : EntryOutput,
      ofRoot "decls.xml" ⟨"manifest", [], none,
        [⟨"struct", [("name", "Handle"), ("options", "traits(Send)")], none, []⟩,
          ⟨"mod", [("name", "net"), ("options", "exclude(all)")], none, []⟩]⟩ =
            .ok ⟨[handle, net], fileText "decls.xml" [handle, net]⟩ ∧
      ofRoot "decls.xml" ⟨"manifest", [], none,
        [⟨"mod", [("name", "net"), ("options", "exclude(all)")], none, []⟩,
          ⟨"struct", [("name", "Handle"), ("options", "traits(Send)")], none, []⟩]⟩ =
            .ok ⟨[net, handle], fileText "decls.xml" [net, handle]⟩ := by
  have first : entries (single ⟨"mod", [("name", "net"), ("line", "2")], none, []⟩) =
      .ok [⟨.module, "", ⟨2, 0⟩, .module ⟨"net", "", [], false, none, ⟨2, 0⟩⟩⟩] :=
    eq_ok_of_toOption (by decide +kernel)
  have second : entries (single ⟨"mod", [("line", "9"), ("column", "4")], none, []⟩) =
      .error ⟨.missingAttribute "mod" "name", ⟨9, 4⟩⟩ := rfl
  have read : entries ⟨"manifest", [], none,
      [⟨"struct", [("name", "Handle"), ("options", "traits(Send)")], none, []⟩,
        ⟨"mod", [("name", "net"), ("options", "exclude(all)")], none, []⟩]⟩ =
      .ok [⟨.struct, "traits(Send)", ⟨0, 0⟩, .struct ⟨"Handle", "", [], ⟨[], []⟩, ";", ⟨0, 0⟩⟩⟩,
        ⟨.module, "exclude(all)", ⟨0, 0⟩, .module ⟨"net", "", [], false, none, ⟨0, 0⟩⟩⟩] :=
    eq_ok_of_toOption (by decide +kernel)
  constructor
  · obtain ⟨-, refused, -⟩ := @entries_independent ⟨"manifest", [], none,
      [⟨"mod", [("name", "net"), ("line", "2")], none, []⟩,
        ⟨"mod", [("line", "9"), ("column", "4")], none, []⟩, ⟨"enum", [], none, []⟩]⟩ rfl
    exact (refused _).mpr ⟨_, _, _, rfl, List.forall_mem_singleton.mpr ⟨_, first⟩, second⟩
  · obtain ⟨-, -, generated, moves⟩ := @entries_independent ⟨"manifest", [], none,
      [⟨"struct", [("name", "Handle"), ("options", "traits(Send)")], none, []⟩,
        ⟨"mod", [("name", "net"), ("options", "exclude(all)")], none, []⟩]⟩ rfl
    obtain ⟨outputs, file, each⟩ := generated _ "decls.xml" read (by decide)
    obtain ⟨handle, _, -, later, rfl⟩ := List.forall₂_cons_left_iff.mp each
    obtain ⟨net, _, -, none, rfl⟩ := List.forall₂_cons_left_iff.mp later
    cases none
    obtain ⟨-, reorder⟩ := moves _ _ file ⟨"manifest", [], none,
      [⟨"mod", [("name", "net"), ("options", "exclude(all)")], none, []⟩,
        ⟨"struct", [("name", "Handle"), ("options", "traits(Send)")], none, []⟩]⟩ rfl
    obtain ⟨⟨outputs, source⟩, file', order, -, -, text⟩ := reorder [1, 0] (by decide) rfl
    have swapped : outputs = [net, handle] :=
      List.map_injective_iff.mpr (Option.some_injective _) order
    subst swapped
    have source : source = fileText "decls.xml" [net, handle] := text
    exact ⟨handle, net, file, source ▸ file'⟩

end Generation

end PlatformGate
