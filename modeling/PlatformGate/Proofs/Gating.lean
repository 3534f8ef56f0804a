import PlatformGate.Proofs.Manifest
import PlatformGate.Proofs.Resolution

/-! Which items of an entry are compiled on which target. The items of every kind of entry are laid
out in one way: some under the guard of all platforms, others under the guard of one platform each.
On a platform the latter are those of that platform alone, and on any other target nothing is
left. -/

namespace PlatformGate

namespace Item

def guard : Item → String
  | function item => item.guard
  | struct item => item.guard
  | typeAlias item => item.guard
  | assertion item => item.guard
  | module item => item.guard
  | moduleAlias item => item.guard

theorem head?_lines (item : Item) : item.lines.head? = some (renderCfg item.guard) := by
  cases item <;> rfl

def isEnabledOn (target : String) (item : Item) : Bool :=
  (Cfg.ofText? item.guard).any fun cfg => decide (cfg.Holds target)

theorem isEnabledOn_iff {item : Item} {platforms : List Platform} {target : String}
    (h : item.guard = renderGuard platforms) :
    item.isEnabledOn target = true ↔ ∃ platform ∈ platforms, platform.name = target := by
  rw [isEnabledOn, h, Cfg.ofText?_renderGuard, Option.any_some, decide_eq_true_iff]
  exact Cfg.holds_ofPlatforms

end Item

/-- The items of an entry: those under the guard of all platforms, and between them those of each
platform under its own guard. -/
structure Layout (platforms : List Platform) where
  before : List Item
  own : Platform → List Item
  after : List Item
  guard_before : ∀ item ∈ before, item.guard = renderGuard platforms
  guard_own : ∀ platform, ∀ item ∈ own platform, item.guard = renderGuard [platform]
  guard_after : ∀ item ∈ after, item.guard = renderGuard platforms

namespace Layout

variable {platforms : List Platform} (layout : Layout platforms)

def items : List Item := layout.before ++ platforms.flatMap layout.own ++ layout.after

def itemsOn (platform : Platform) : List Item :=
  layout.before ++ layout.own platform ++ layout.after

theorem exists_guard : ∀ item ∈ layout.items, ∃ others, item.guard = renderGuard others := by
  intro item mem
  rcases List.mem_append.mp mem with mem | mem
  · rcases List.mem_append.mp mem with mem | mem
    · exact ⟨_, layout.guard_before item mem⟩
    · obtain ⟨platform, -, mem⟩ := List.mem_flatMap.mp mem
      exact ⟨_, layout.guard_own platform item mem⟩
  · exact ⟨_, layout.guard_after item mem⟩

theorem filter_own (others : List Platform) (target : String) :
    (others.flatMap layout.own).filter (·.isEnabledOn target) =
      (others.filter (·.name = target)).flatMap layout.own := by
  induction others with
  | nil => rfl
  | cons platform others ih =>
    rw [List.flatMap_cons, List.filter_append, ih]
    have enabled : ∀ item ∈ layout.own platform,
        item.isEnabledOn target = true ↔ platform.name = target := fun item mem => by
      rw [Item.isEnabledOn_iff (layout.guard_own platform item mem)]
      simp
    by_cases same : platform.name = target
    · rw [List.filter_eq_self.mpr fun item mem => (enabled item mem).mpr same,
        List.filter_cons_of_pos (by simpa using same), List.flatMap_cons]
    · rw [List.filter_eq_nil_iff.mpr fun item mem => same ∘ (enabled item mem).mp,
        List.filter_cons_of_neg (by simpa using same), List.nil_append]

theorem filter_items_of_mem (distinct : platforms.Nodup) {platform : Platform}
    (mem : platform ∈ platforms) :
    layout.items.filter (·.isEnabledOn platform.name) = layout.itemsOn platform := by
  have shared : ∀ item : Item, item.guard = renderGuard platforms →
      item.isEnabledOn platform.name = true := fun item guard =>
    (Item.isEnabledOn_iff guard).mpr ⟨platform, mem, rfl⟩
  have alone : platforms.filter (·.name = platform.name) = [platform] := by
    simp only [Platform.name_injective.eq_iff]
    rw [List.filter_eq, List.count_eq_one_of_mem distinct mem, List.replicate_one]
  rw [items, List.filter_append, List.filter_append, layout.filter_own, alone,
    List.flatMap_singleton,
    List.filter_eq_self.mpr fun item mem => shared item (layout.guard_before item mem),
    List.filter_eq_self.mpr fun item mem => shared item (layout.guard_after item mem), itemsOn]

theorem filter_items_of_not_mem {target : String}
    (other : ∀ platform ∈ platforms, platform.name ≠ target) :
    layout.items.filter (·.isEnabledOn target) = [] := by
  have shared : ∀ item : Item, item.guard = renderGuard platforms →
      ¬item.isEnabledOn target = true := fun item guard enabled => by
    obtain ⟨platform, mem, same⟩ := (Item.isEnabledOn_iff guard).mp enabled
    exact other platform mem same
  have none : platforms.filter (·.name = target) = [] :=
    List.filter_eq_nil_iff.mpr fun platform mem => by simpa using other platform mem
  rw [items, List.filter_append, List.filter_append, layout.filter_own, none, List.flatMap_nil,
    List.filter_eq_nil_iff.mpr fun item mem => shared item (layout.guard_before item mem),
    List.filter_eq_nil_iff.mpr fun item mem => shared item (layout.guard_after item mem)]
  rfl

end Layout

def IsModulePair (platform : Platform) (visibility name : String) (items : List Item) : Prop :=
  ∃ (module : PlatformModule) (portable : ModuleAlias),
    items = [.module module, .moduleAlias portable] ∧
      module.moduleName = platform.moduleName ∧ module.visibility = visibility ∧
      portable.moduleName = module.moduleName ∧ portable.name = name

/-- What the items of an entry have to be on one of the platforms of its option block. -/
def ItemsOn (block : OptionBlock) (platform : Platform) :
    EntryKind → Declaration → List Item → Prop
  | .function, .callable decl, items =>
    if decl.body.isNone ∧ decl.signature.variadic.isSome then items = []
    else ∃ fn : GuardedFn, items = [.function fn] ∧ fn.decl = decl ∧
      fn.forward = if decl.body.isSome then none else some decl.signature.forwardCall
  | .traitFunction, .callable decl, items =>
    ∃ fn : GuardedFn, items = [.function fn] ∧ fn.decl = decl ∧ fn.forward = none
  | .struct, .struct decl, items =>
    ∃ (struct : GuardedStruct) (suffixed : TypeAlias), struct.decl = decl ∧
      suffixed.name = decl.name ++ platform.aliasSuffix ∧
      if block.traits = [] then items = [.struct struct, .typeAlias suffixed]
      else ∃ assertion : TraitAssertion, assertion.traits = block.traits ∧
        items = [.struct struct, .typeAlias suffixed, .assertion assertion]
  | .module, .module decl, items =>
    if decl.isUnsafe ∨ decl.inlineBody.isSome then items = []
    else IsModulePair platform decl.visibility decl.name items
  | .use, .use decl, items =>
    if decl.tree.leadingColons ∨ decl.tree.shape ≠ .name then items = []
    else IsModulePair platform decl.visibility decl.tree.text items
  | _, _, _ => False

namespace Layout

def shared {platforms : List Platform} (items : List Item)
    (guarded : ∀ item ∈ items, item.guard = renderGuard platforms) : Layout platforms where
  before := items
  own _ := []
  after := []
  guard_before := guarded
  guard_own _ _ mem := by cases mem
  guard_after _ mem := by cases mem

theorem items_shared {platforms : List Platform} {items : List Item}
    (guarded : ∀ item ∈ items, item.guard = renderGuard platforms) :
    (shared items guarded).items = items := by
  simp [Layout.items, shared]

theorem itemsOn_shared {platforms : List Platform} {items : List Item}
    (guarded : ∀ item ∈ items, item.guard = renderGuard platforms) (platform : Platform) :
    (shared items guarded).itemsOn platform = items := by
  simp [itemsOn, shared]

def ofStruct (decl : StructDecl) (traits : List String) (platforms : List Platform) :
    Layout platforms where
  before := [.struct ⟨renderGuard platforms, decl⟩]
  own platform := [.typeAlias (TypeAlias.ofStruct decl platform)]
  after := ((TraitAssertion.ofStruct decl traits (renderGuard platforms)).map .assertion).toList
  guard_before := by simp [Item.guard]
  guard_own := by simp [Item.guard, TypeAlias.ofStruct]
  guard_after := by
    unfold TraitAssertion.ofStruct
    split <;> simp [Item.guard]

theorem items_ofStruct (decl : StructDecl) (traits : List String) {resolution : Resolution}
    (guard : resolution.guard = renderGuard resolution.platforms) :
    (ofStruct decl traits resolution.platforms).items = Item.ofStruct decl traits resolution := by
  simp only [Layout.items, ofStruct, Item.ofStruct, guard, ← List.map_eq_flatMap,
    List.cons_append, List.nil_append]

def ofPairs (visibility : String) (attributes : List String) (name : String)
    (platforms : List Platform) : Layout platforms where
  before := []
  own platform := Item.ofModulePair (modulePair visibility attributes name platform)
  after := []
  guard_before _ mem := by cases mem
  guard_own := by simp [Item.ofModulePair, modulePair, Item.guard]
  guard_after _ mem := by cases mem

theorem exists_of_portable {portableName : Except Diagnostic String} {name : String}
    {rejected : Prop} [Decidable rejected]
    (asked : portableName.toOption = if rejected then none else some name)
    (visibility : String) (attributes : List String) (platforms : List Platform) :
    ∃ (layout : Layout platforms) (diagnostics : List Diagnostic),
      Item.ofPortable portableName visibility attributes platforms =
        (layout.items, diagnostics) ∧
      ∀ platform, if rejected then layout.itemsOn platform = []
        else IsModulePair platform visibility name (layout.itemsOn platform) := by
  cases portableName with
  | error diagnostic =>
    have nothing : ∀ item ∈ ([] : List Item), item.guard = renderGuard platforms := by simp
    have isRejected : rejected := by
      by_contra accepted
      rw [if_neg accepted] at asked
      cases asked
    refine ⟨shared [] nothing, [diagnostic], by rw [items_shared]; rfl, fun platform => ?_⟩
    rw [if_pos isRejected]
    exact itemsOn_shared nothing platform
  | ok portable =>
    by_cases isRejected : rejected
    · rw [if_pos isRejected] at asked
      cases asked
    rw [if_neg isRejected] at asked
    cases asked
    refine ⟨ofPairs visibility attributes name platforms, [], ?_, fun platform => ?_⟩
    · simp [Item.ofPortable, Layout.items, ofPairs]
    · rw [if_neg isRejected]
      exact ⟨_, _, List.append_nil _, rfl, rfl, rfl, rfl⟩

end Layout

theorem GuardedFn.ofCallable_eq (decl : Callable) (guard : String) :
    (GuardedFn.ofCallable decl guard).1 =
      if decl.body.isNone ∧ decl.signature.variadic.isSome then none
      else some
        ⟨guard, decl, if decl.body.isSome then none else some decl.signature.forwardCall⟩ := by
  unfold GuardedFn.ofCallable
  cases decl.body with
  | some body => simp
  | none => cases decl.signature.variadic <;> simp

theorem ModuleDecl.toOption_portableName (decl : ModuleDecl) :
    decl.portableName.toOption =
      if decl.isUnsafe ∨ decl.inlineBody.isSome then none else some decl.name := by
  unfold ModuleDecl.portableName
  split_ifs <;> simp_all [Except.toOption]

theorem UseDecl.toOption_portableName (decl : UseDecl) :
    decl.portableName.toOption =
      if decl.tree.leadingColons ∨ decl.tree.shape ≠ .name then none
      else some decl.tree.text := by
  unfold UseDecl.portableName
  split_ifs <;> simp_all [Except.toOption]

theorem exists_layout {kind : EntryKind} {declaration : Declaration}
    (fits : kind.Fits declaration) (block : OptionBlock) :
    ∃ (layout : Layout block.resolve.platforms) (diagnostics : List Diagnostic),
      Entry.generateItems kind declaration block.traits block.resolve =
        .ok (layout.items, diagnostics) ∧
      ∀ platform, ItemsOn block platform kind declaration (layout.itemsOn platform) := by
  have guard : block.resolve.guard = renderGuard block.resolve.platforms := rfl
  -- The platforms share a function, while each has its own alias of a struct and its own module.
  cases fits with
  | function decl =>
    have kept := GuardedFn.ofCallable_eq decl block.resolve.guard
    have guarded : ∀ item ∈ (GuardedFn.ofCallable decl block.resolve.guard).1.toList.map
        Item.function, item.guard = renderGuard block.resolve.platforms := by
      rw [kept]
      split <;> simp [Item.guard, guard]
    refine ⟨.shared _ guarded, _, by rw [Layout.items_shared]; rfl, fun platform => ?_⟩
    rw [Layout.itemsOn_shared, kept, ItemsOn]
    split
    next => rfl
    next => exact ⟨_, rfl, rfl, rfl⟩
  | traitFunction decl =>
    have guarded : ∀ item ∈ [Item.function (GuardedFn.ofTraitMethod decl block.resolve.guard)],
        item.guard = renderGuard block.resolve.platforms := by
      simp [Item.guard, GuardedFn.ofTraitMethod, guard]
    refine ⟨.shared _ guarded, [], by rw [Layout.items_shared]; rfl, fun platform => ?_⟩
    rw [Layout.itemsOn_shared]
    exact ⟨_, rfl, rfl, rfl⟩
  | struct decl =>
    refine ⟨.ofStruct decl block.traits _, [], ?_, fun platform =>
      ⟨⟨block.resolve.guard, decl⟩, TypeAlias.ofStruct decl platform, rfl, rfl, ?_⟩⟩
    · rw [Layout.items_ofStruct decl block.traits guard]
      rfl
    · simp only [Layout.itemsOn, Layout.ofStruct, TraitAssertion.ofStruct, List.isEmpty_iff]
      split
      next => rfl
      next => exact ⟨_, rfl, rfl⟩
  | module decl =>
    obtain ⟨layout, diagnostics, items, on⟩ := Layout.exists_of_portable
      decl.toOption_portableName decl.visibility decl.attributes block.resolve.platforms
    exact ⟨layout, diagnostics, congrArg Except.ok items, on⟩
  | use decl =>
    obtain ⟨layout, diagnostics, items, on⟩ := Layout.exists_of_portable
      decl.toOption_portableName decl.visibility decl.attributes block.resolve.platforms
    exact ⟨layout, diagnostics, congrArg Except.ok items, on⟩

namespace Entry

open Manifest

/-- On each platform of its option block an entry of a manifest comes to exactly what its kind
calls for, and on every other target to nothing. -/
theorem enabled_items {root : Markup.Element} {loaded : List Entry} {entry : Entry}
    {block : OptionBlock} (h : entries root = .ok loaded) (mem : entry ∈ loaded)
    (parsed : entry.options = .ok block) :
    ∃ output, entry.generate = .ok output ∧
      (∀ item ∈ output.items, ∃ cfg, Cfg.ofText? item.guard = some cfg) ∧
      (∀ target, target ∉ block.resolve.platforms.map Platform.name →
        output.items.filter (·.isEnabledOn target) = []) ∧
      ∀ platform ∈ block.resolve.platforms,
        ItemsOn block platform entry.kind entry.declaration
          (output.items.filter (·.isEnabledOn platform.name)) := by
  obtain ⟨layout, diagnostics, items, on⟩ := exists_layout (fits_of_entries h mem) block
  have distinct : block.resolve.platforms.Nodup :=
    Resolution.sortedLT_ofGroups.nodup.of_map Platform.name
  refine ⟨⟨entry.kind, entry.declaration.name, layout.items,
    block.resolve.diagnostic.toList ++ diagnostics⟩, ?_, fun item mem => ?_, fun target other => ?_,
    fun platform mem => ?_⟩
  · simp only [generate, parsed, items]
  · obtain ⟨others, guard⟩ := layout.exists_guard item mem
    exact ⟨_, guard ▸ Cfg.ofText?_renderGuard others⟩
  · exact layout.filter_items_of_not_mem fun platform mem same =>
      other (List.mem_map.mpr ⟨platform, mem, same⟩)
  · rw [layout.filter_items_of_mem distinct mem]
    exact on platform

theorem enabled_items_of_struct :
    ∃ (entry : Entry) (output : EntryOutput) (struct : GuardedStruct) (suffixed : TypeAlias)
      (assertion : TraitAssertion),
      entry.generate = .ok output ∧ suffixed.name = "HandleMacOS" ∧ assertion.traits = ["Send"] ∧
        output.items.filter (·.isEnabledOn "macos") =
          [.struct struct, .typeAlias suffixed, .assertion assertion] ∧
        output.items.filter (·.isEnabledOn "linux") = [] := by
  have read : entries ⟨"manifest", [], none, [⟨"struct",
      [("name", "Handle"), ("options", "exclude(linux), traits(Send)")], none, []⟩]⟩ =
      .ok [⟨.struct, "exclude(linux), traits(Send)", ⟨0, 0⟩,
        .struct ⟨"Handle", "", [], ⟨[], []⟩, ";", ⟨0, 0⟩⟩⟩] :=
    eq_ok_of_toOption (by decide +kernel)
  have parsed : OptionBlock.parse "exclude(linux), traits(Send)" true ⟨0, 0⟩ =
      .ok ⟨[.all], [.linux], ["Send"], ⟨0, 0⟩⟩ := eq_ok_of_toOption (by decide +kernel)
  obtain ⟨output, generated, -, elsewhere, here⟩ :=
    enabled_items read (List.mem_singleton_self _) parsed
  obtain ⟨struct, suffixed, -, name, assertion, traits, items⟩ := here .macos (by decide)
  exact ⟨_, output, struct, suffixed, assertion, generated, name, traits, items,
    elsewhere "linux" (by decide)⟩

end Entry

end PlatformGate
