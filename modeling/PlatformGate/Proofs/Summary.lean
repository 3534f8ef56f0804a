import PlatformGate.Proofs.Completeness

/-! The counts of the report. What an entry comes to is told by its kind, its declaration and its
option block, so the counts can be had from the entries as well as from the items. Every item is
counted once, where the module of a platform stands for its alias too. -/

namespace PlatformGate

namespace Declaration

def hasBody : Declaration → Bool
  | callable decl => decl.body.isSome
  | _ => false

def isVariadic : Declaration → Bool
  | callable decl => decl.signature.variadic.isSome
  | _ => false

def isPortable : Declaration → Bool
  | module decl => decl.portableName.isOk
  | use decl => decl.portableName.isOk
  | _ => false

end Declaration

namespace Entry

def isReadable (entry : Entry) : Bool := entry.options.isOk

def traits (entry : Entry) : List String :=
  match entry.options with
  | .error _ => []
  | .ok block => block.traits

def platforms (entry : Entry) : List Platform :=
  match entry.options with
  | .error _ => []
  | .ok block => block.resolve.platforms

/-- The number of items of a category that an entry comes to if its option text can be read. -/
def calls (entry : Entry) : Category → Nat
  | .wrapper =>
    if entry.kind = .function ∧ ¬entry.declaration.hasBody ∧ ¬entry.declaration.isVariadic then 1
    else 0
  | .conditionalFn => if entry.kind = .function ∧ entry.declaration.hasBody then 1 else 0
  | .traitFn => if entry.kind = .traitFunction then 1 else 0
  | .struct => if entry.kind = .struct then 1 else 0
  | .typeAlias => if entry.kind = .struct then entry.platforms.length else 0
  | .assertion => if entry.kind = .struct ∧ entry.traits ≠ [] then 1 else 0
  | .platformModule => if entry.declaration.isPortable then entry.platforms.length else 0
  | .moduleAlias => if entry.declaration.isPortable then entry.platforms.length else 0

end Entry

def Category.modulePairs (platforms : List Platform) : List Category :=
  platforms.flatMap fun _ => [.platformModule, .moduleAlias]

theorem Category.count_modulePairs (category : Category) (platforms : List Platform) :
    (modulePairs platforms).count category =
      if category = .platformModule ∨ category = .moduleAlias then platforms.length else 0 := by
  induction platforms with
  | nil => simp [modulePairs]
  | cons platform platforms ih =>
    unfold modulePairs at ih ⊢
    rw [List.flatMap_cons, List.count_append, ih]
    cases category <;> simp [Nat.add_comm]

def OptionBlock.categories (block : OptionBlock) : EntryKind → Declaration → List Category
  | .function, .callable decl =>
    if decl.body.isSome then [.conditionalFn]
    else if decl.signature.variadic.isSome then [] else [.wrapper]
  | .traitFunction, .callable _ => [.traitFn]
  | .struct, .struct _ =>
    .struct :: (block.resolve.platforms.map fun _ => .typeAlias) ++
      if block.traits.isEmpty then [] else [.assertion]
  | .module, .module decl =>
    if decl.portableName.isOk then Category.modulePairs block.resolve.platforms else []
  | .use, .use decl =>
    if decl.portableName.isOk then Category.modulePairs block.resolve.platforms else []
  | _, _ => []

namespace Item

theorem categories_ofCallable (decl : Callable) (guard : String) :
    ((GuardedFn.ofCallable decl guard).1.toList.map Item.function).map (·.category .function) =
      if decl.body.isSome then [.conditionalFn]
      else if decl.signature.variadic.isSome then [] else [.wrapper] := by
  unfold GuardedFn.ofCallable
  split_ifs <;> rfl

theorem categories_ofStruct (decl : StructDecl) (traits : List String) (resolution : Resolution) :
    (ofStruct decl traits resolution).map (·.category .struct) =
      .struct :: (resolution.platforms.map fun _ => .typeAlias) ++
        if traits.isEmpty then [] else [.assertion] := by
  unfold ofStruct TraitAssertion.ofStruct
  split_ifs <;> simp [category, Function.comp_def]

theorem categories_ofPortable (portableName : Except Diagnostic String) (visibility : String)
    (attributes : List String) (platforms : List Platform) (kind : EntryKind) :
    (ofPortable portableName visibility attributes platforms).1.map (·.category kind) =
      if portableName.isOk then Category.modulePairs platforms else [] := by
  cases portableName with
  | error => rfl
  | ok name =>
    exact List.map_flatMap

end Item

namespace Entry

theorem categories_of_generateItems {kind : EntryKind} {declaration : Declaration}
    {block : OptionBlock} {items : List Item} {diagnostics : List Diagnostic}
    (fits : kind.Fits declaration)
    (h : generateItems kind declaration block.traits block.resolve = .ok (items, diagnostics)) :
    items.map (·.category kind) = block.categories kind declaration := by
  cases fits with
  | function decl =>
    cases h
    exact Item.categories_ofCallable decl block.resolve.guard
  | traitFunction decl =>
    cases h
    rfl
  | struct decl =>
    cases h
    exact Item.categories_ofStruct decl block.traits block.resolve
  | module decl =>
    have made : (Item.ofModule decl block.resolve.platforms).1 = items :=
      congrArg Prod.fst (Except.ok.inj h)
    exact made ▸ Item.categories_ofPortable ..
  | use decl =>
    have made : (Item.ofUse decl block.resolve.platforms).1 = items :=
      congrArg Prod.fst (Except.ok.inj h)
    exact made ▸ Item.categories_ofPortable ..

def categories (entry : Entry) : List Category :=
  match entry.options with
  | .error _ => []
  | .ok block => block.categories entry.kind entry.declaration

theorem categories_of_generate {entry : Entry} {output : EntryOutput}
    (fits : entry.kind.Fits entry.declaration) (h : entry.generate = .ok output) :
    output.categories = entry.categories := by
  unfold categories
  rcases generate_cases h with
    ⟨diagnostic, unread, rfl⟩ | ⟨block, items, diagnostics, parsed, made, rfl⟩
  · rw [unread]
    rfl
  · rw [parsed]
    exact categories_of_generateItems fits made

theorem count_categories {entry : Entry} (fits : entry.kind.Fits entry.declaration)
    (category : Category) :
    entry.categories.count category = if entry.isReadable then entry.calls category else 0 := by
  cases parsed : entry.options with
  | error diagnostic =>
    simp [categories, isReadable, parsed, Except.isOk, Except.toBool]
  | ok block =>
    have platforms : entry.platforms = block.resolve.platforms := by rw [Entry.platforms, parsed]
    have traits : entry.traits = block.traits := by rw [Entry.traits, parsed]
    have readable : entry.isReadable = true := by
      rw [isReadable, parsed]
      rfl
    rw [categories, parsed, readable, if_pos rfl]
    -- What is left is a table, of every category against every kind of declaration.
    obtain ⟨kind, text, location, declaration⟩ := entry
    simp only [calls, platforms, traits]
    cases fits with
    | function decl =>
      cases held : decl.body <;> cases taken : decl.signature.variadic <;> cases category <;>
        simp [OptionBlock.categories, Declaration.hasBody, Declaration.isVariadic,
          Declaration.isPortable, held, taken]
    | traitFunction decl => cases category <;> simp [OptionBlock.categories, Declaration.isPortable]
    | struct decl =>
      cases listed : block.traits <;> cases category <;>
        simp [OptionBlock.categories, Declaration.isPortable, listed, List.map_const',
          List.count_replicate]
    | module decl =>
      cases named : decl.portableName.isOk <;> cases category <;>
        simp [OptionBlock.categories, Declaration.isPortable, Category.count_modulePairs, named]
    | use decl =>
      cases named : decl.portableName.isOk <;> cases category <;>
        simp [OptionBlock.categories, Declaration.isPortable, Category.count_modulePairs, named]

end Entry

theorem Category.length_eq_sum_count (categories : List Category) :
    categories.length = categories.count .wrapper + categories.count .conditionalFn +
      categories.count .traitFn + categories.count .struct + categories.count .typeAlias +
      categories.count .assertion + categories.count .platformModule +
      categories.count .moduleAlias := by
  induction categories with
  | nil => rfl
  | cons category categories ih =>
    rw [List.length_cons, ih]
    cases category <;> simp <;> omega

def Item.isModuleAlias : Item → Bool
  | moduleAlias _ => true
  | _ => false

theorem EntryOutput.count_moduleAlias (output : EntryOutput) :
    output.categories.count .moduleAlias = output.items.countP Item.isModuleAlias := by
  rw [categories, List.count_eq_countP, List.countP_map]
  refine List.countP_congr fun item _ => ?_
  cases item with
  | function fn =>
    simp only [Function.comp_apply, Item.category, Item.isModuleAlias]
    split_ifs <;> decide
  | _ => simp [Item.category, Item.isModuleAlias]

section

variable {α : Type} (test : α → Prop) [DecidablePred test] (xs : List α)

theorem sum_map_ite (weight : α → Nat) :
    (xs.map fun x => if test x then weight x else 0).sum = ((xs.filter test).map weight).sum := by
  induction xs with
  | nil => rfl
  | cons x xs ih =>
    rw [List.map_cons, List.sum_cons, ih]
    by_cases here : test x <;> simp [here]

theorem sum_map_ite_one : (xs.map fun x => if test x then 1 else 0).sum = xs.countP test := by
  rw [sum_map_ite, List.countP_eq_length_filter, List.map_const', List.sum_replicate_nat,
    Nat.mul_one]

end

namespace Generation

variable {loaded : List Entry} {outputs : List EntryOutput}

theorem flatMap_categories (fits : ∀ entry ∈ loaded, entry.kind.Fits entry.declaration)
    (generated : outputsOf loaded = .ok outputs) :
    outputs.flatMap (·.categories) = loaded.flatMap (·.categories) := by
  have each := outputsOf_eq_ok.mp generated
  clear generated
  induction each with
  | nil => rfl
  | cons here _ ih =>
    obtain ⟨first, later⟩ := List.forall_mem_cons.mp fits
    rw [List.flatMap_cons, List.flatMap_cons, Entry.categories_of_generate first here, ih later]

theorem count_flatMap_categories
    (fits : ∀ entry ∈ loaded, entry.kind.Fits entry.declaration)
    (generated : outputsOf loaded = .ok outputs) (category : Category) :
    (outputs.flatMap (·.categories)).count category =
      ((loaded.filter Entry.isReadable).map (·.calls category)).sum := by
  have readable := sum_map_ite (·.isReadable = true) loaded (·.calls category)
  simp only [Bool.decide_eq_true] at readable
  rw [flatMap_categories fits generated, List.count_flatMap, ← readable]
  exact congrArg List.sum (List.map_congr_left fun entry mem =>
    Entry.count_categories (fits entry mem) category)

/-- A category of which an entry calls for one item at most counts entries. -/
theorem count_flatMap_categories_eq_countP
    (fits : ∀ entry ∈ loaded, entry.kind.Fits entry.declaration)
    (generated : outputsOf loaded = .ok outputs) {category : Category} {test : Entry → Prop}
    [DecidablePred test] (one : ∀ entry, entry.calls category = if test entry then 1 else 0) :
    (outputs.flatMap (·.categories)).count category =
      (loaded.filter Entry.isReadable).countP test := by
  rw [count_flatMap_categories fits generated, funext one, sum_map_ite_one]

end Generation

namespace Counts

instance : Add Counts where
  add some others :=
    { wrappers := some.wrappers + others.wrappers
      conditionalFns := some.conditionalFns + others.conditionalFns
      traitFns := some.traitFns + others.traitFns
      structs := some.structs + others.structs
      aliases := some.aliases + others.aliases
      assertions := some.assertions + others.assertions
      platformModules := some.platformModules + others.platformModules
      diagnostics := some.diagnostics + others.diagnostics }

theorem ofOutputs_append (outputs others : List EntryOutput) :
    ofOutputs (outputs ++ others) = ofOutputs outputs + ofOutputs others := by
  simp only [ofOutputs, List.flatMap_append, List.count_append, List.length_append,
    Int.natCast_add]
  rfl

/-- No item is left out, and the alias of a platform module is counted with its module. -/
structure AccountsFor (counts : Counts) (outputs : List EntryOutput) : Prop where
  total : counts.wrappers + counts.conditionalFns + counts.traitFns + counts.structs +
    counts.aliases + counts.assertions + 2 * counts.platformModules = Generation.itemCount outputs
  moduleAliases : counts.platformModules =
    (outputs.flatMap (·.items)).countP Item.isModuleAlias

structure AgreesWith (counts : Counts) (entries : List Entry) : Prop where
  conditionalFns : counts.conditionalFns =
    entries.countP fun entry => entry.kind = .function ∧ entry.declaration.hasBody
  wrappers : counts.wrappers = entries.countP fun entry =>
    entry.kind = .function ∧ ¬entry.declaration.hasBody ∧ ¬entry.declaration.isVariadic
  traitFns : counts.traitFns = entries.countP (·.kind = .traitFunction)
  structs : counts.structs = entries.countP (·.kind = .struct)
  assertions : counts.assertions =
    entries.countP fun entry => entry.kind = .struct ∧ entry.traits ≠ []
  aliases : counts.aliases =
    ((entries.filter (·.kind = .struct)).map (·.platforms.length)).sum

section

variable {loaded : List Entry} {outputs : List EntryOutput}

theorem accountsFor_ofOutputs (fits : ∀ entry ∈ loaded, entry.kind.Fits entry.declaration)
    (generated : Generation.outputsOf loaded = .ok outputs) :
    (ofOutputs outputs).AccountsFor outputs := by
  have pairs : (outputs.flatMap (·.categories)).count .platformModule =
      (outputs.flatMap (·.categories)).count .moduleAlias := by
    rw [Generation.count_flatMap_categories fits generated,
      Generation.count_flatMap_categories fits generated]
    rfl
  have aliases : (outputs.flatMap (·.categories)).count .moduleAlias =
      (outputs.flatMap (·.items)).countP Item.isModuleAlias := by
    rw [List.count_flatMap, List.countP_flatMap]
    exact congrArg List.sum (List.map_congr_left fun output _ => output.count_moduleAlias)
  have items : Generation.itemCount outputs = (outputs.flatMap (·.categories)).length := by
    simp [Generation.itemCount, List.length_flatMap, EntryOutput.categories]
  constructor
  · rw [items, Category.length_eq_sum_count]
    simp only [ofOutputs]
    omega
  · rw [← aliases, ← pairs]
    rfl

theorem agreesWith_ofOutputs (fits : ∀ entry ∈ loaded, entry.kind.Fits entry.declaration)
    (generated : Generation.outputsOf loaded = .ok outputs) :
    (ofOutputs outputs).AgreesWith (loaded.filter Entry.isReadable) := by
  have told {category : Category} {test : Entry → Prop} [DecidablePred test]
      (one : ∀ entry, entry.calls category = if test entry then 1 else 0) :
      ((outputs.flatMap (·.categories)).count category : Int) =
        (loaded.filter Entry.isReadable).countP test :=
    congrArg Nat.cast (Generation.count_flatMap_categories_eq_countP fits generated one)
  constructor
  · exact told fun _ => rfl
  · exact told fun _ => rfl
  · exact told fun _ => rfl
  · exact told fun _ => rfl
  · exact told fun _ => rfl
  · rw [← sum_map_ite]
    exact congrArg Nat.cast (Generation.count_flatMap_categories fits generated .typeAlias)

end

/-- Every item of a run is counted, and counted once. The counts are told by the entries whose
options can be read, and those of two runs add up. -/
theorem each_item_once {loaded : List Entry} (known : ∀ entry ∈ loaded, entry.IsFromManifest) :
    ∃ outputs, Generation.outputsOf loaded = .ok outputs ∧
      (ofOutputs outputs).AccountsFor outputs ∧
      (ofOutputs outputs).AgreesWith (loaded.filter Entry.isReadable) ∧
      ∀ before after, ofOutputs (before ++ after) = ofOutputs before + ofOutputs after := by
  have wellFormed : ∀ entry ∈ loaded, entry.WellFormed := fun entry mem =>
    (known entry mem).wellFormed
  have fits : ∀ entry ∈ loaded, entry.kind.Fits entry.declaration := fun entry mem =>
    (wellFormed entry mem).fits
  obtain ⟨outputs, generates⟩ := Generation.exists_outputs wellFormed
  have generated := Generation.outputsOf_of_generates generates
  exact ⟨outputs, generated, accountsFor_ofOutputs fits generated,
    agreesWith_ofOutputs fits generated, ofOutputs_append⟩

theorem each_item_once_of_struct :
    ∃ (loaded : List Entry) (outputs : List EntryOutput),
      Manifest.entries ⟨"manifest", [], none,
        [⟨"struct", [("name", "Handle"), ("options", "include(posix), traits(Send)")], none, []⟩,
          ⟨"function", [("name", "open"), ("options", "traits(Send)")], none, []⟩]⟩ = .ok loaded ∧
      Generation.outputsOf loaded = .ok outputs ∧ (ofOutputs outputs).structs = 1 ∧
      (ofOutputs outputs).aliases = 2 ∧ (ofOutputs outputs).assertions = 1 ∧
      (ofOutputs outputs).wrappers = 0 ∧ (ofOutputs outputs).conditionalFns = 0 ∧
      Generation.itemCount outputs = 4 + 2 * (ofOutputs outputs).platformModules := by
  have read : Manifest.entries ⟨"manifest", [], none,
      [⟨"struct", [("name", "Handle"), ("options", "include(posix), traits(Send)")], none, []⟩,
        ⟨"function", [("name", "open"), ("options", "traits(Send)")], none, []⟩]⟩ =
      .ok [⟨.struct, "include(posix), traits(Send)", ⟨0, 0⟩,
          .struct ⟨"Handle", "", [], ⟨[], []⟩, ";", ⟨0, 0⟩⟩⟩,
        ⟨.function, "traits(Send)", ⟨0, 0⟩, .callable ⟨⟨"open", ⟨[], []⟩, none, [], none, none,
          false, false, false, none⟩, "", [], none, ⟨0, 0⟩⟩⟩] :=
    eq_ok_of_toOption (by decide +kernel)
  obtain ⟨outputs, generated, counted, agrees, -⟩ :=
    each_item_once fun entry mem => ⟨_, _, read, mem⟩
  have structs : (ofOutputs outputs).structs = 1 := agrees.structs.trans (by decide +kernel)
  have aliases : (ofOutputs outputs).aliases = 2 := agrees.aliases.trans (by decide +kernel)
  have assertions : (ofOutputs outputs).assertions = 1 :=
    agrees.assertions.trans (by decide +kernel)
  have wrappers : (ofOutputs outputs).wrappers = 0 := agrees.wrappers.trans (by decide +kernel)
  have traitFns : (ofOutputs outputs).traitFns = 0 := agrees.traitFns.trans (by decide +kernel)
  have conditionalFns : (ofOutputs outputs).conditionalFns = 0 :=
    agrees.conditionalFns.trans (by decide +kernel)
  have total := counted.total
  exact ⟨_, outputs, read, generated, structs, aliases, assertions, wrappers, conditionalFns,
    by omega⟩

end Counts

end PlatformGate
