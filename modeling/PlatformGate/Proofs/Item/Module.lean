import PlatformGate.Proofs.Gating
import PlatformGate.Proofs.Manifest.Reading
import PlatformGate.Proofs.UseTree

/-! Platform modules and their portable names. Which `use` declarations are turned into modules, and
which names a module and its alias declare. The name of the alias is the author's and that of the
module is the platform's; nothing keeps the two apart. -/

namespace PlatformGate

open Text

theorem ModuleDecl.portableName_eq_ok {decl : ModuleDecl} {name : String} :
    decl.portableName = .ok name ↔
      decl.isUnsafe = false ∧ decl.inlineBody = none ∧ decl.name = name := by
  unfold portableName
  cases decl.isUnsafe <;> cases decl.inlineBody <;> simp

theorem UseDecl.portableName_eq_ok {decl : UseDecl} {name : String} :
    decl.portableName = .ok name ↔
      decl.tree.leadingColons = false ∧ decl.tree.shape = .name ∧ decl.tree.text = name := by
  unfold portableName
  cases decl.tree.leadingColons <;> by_cases plain : decl.tree.shape = .name <;> simp [plain]

namespace Item

def modulePairs (visibility : String) (attributes : List String) (name : String)
    (platforms : List Platform) : List Item :=
  platforms.flatMap fun platform => ofModulePair (modulePair visibility attributes name platform)

theorem modulePairs_ne_nil {platforms : List Platform} (supported : platforms ≠ [])
    (visibility : String) (attributes : List String) (name : String) :
    modulePairs visibility attributes name platforms ≠ [] := by
  cases platforms with
  | nil => exact absurd rfl supported
  | cons platform platforms => simp [modulePairs, ofModulePair]

theorem exists_of_ofPortable {portableName : Except Diagnostic String} {visibility : String}
    {attributes : List String} {platforms : List Platform}
    (yields : (ofPortable portableName visibility attributes platforms).1 ≠ []) :
    ∃ name, portableName = .ok name := by
  cases portableName with
  | error diagnostic => exact absurd rfl yields
  | ok name => exact ⟨name, rfl⟩

end Item

namespace UseTree

variable {platforms : List Platform}

theorem identifier_of_ofUse {text visibility : String} {attributes : List String}
    {location : Location} {tree : UseTree} (parsed : parse text = .ok tree)
    (yields : (Item.ofUse ⟨tree, visibility, attributes, location⟩ platforms).1 ≠ []) :
    IsIdentifier (trim text) ∧ ¬IsAs (trim text) := by
  obtain ⟨name, accepted⟩ := Item.exists_of_ofPortable yields
  obtain ⟨plain, shape, -⟩ := UseDecl.portableName_eq_ok.mp accepted
  obtain ⟨-, -, whole⟩ := classify_of_parse parsed
  exact whole plain ▸ isIdentifier_of_parse parsed shape

theorem exists_tree_of_identifier {text : String} (identifier : IsIdentifier (trim text))
    (visibility : String) (attributes : List String) (location : Location)
    (platforms : List Platform) : ∃ tree, parse text = .ok tree ∧ tree.text = trim text ∧
      Item.ofUse ⟨tree, visibility, attributes, location⟩ platforms =
        if IsAs (trim text) then ([], [⟨useShapeMessage ⟨.rename, trim text, false⟩, location⟩])
        else (Item.modulePairs visibility attributes (trim text) platforms, []) := by
  refine ⟨_, parse_identifier identifier, rfl, ?_⟩
  split_ifs
  · rfl
  · rfl

/-- A `use` declaration has modules exactly if its tree is one identifier, which is then the name of
their aliases. The identifiers `as` and `r#as` are left out: they are taken for a renaming without
its names, and are refused as such. -/
theorem modules_iff_identifier (supported : platforms ≠ []) (text visibility : String)
    (attributes : List String) (location : Location) :
    ((∃ tree, parse text = .ok tree ∧
        (Item.ofUse ⟨tree, visibility, attributes, location⟩ platforms).1 ≠ []) ↔
      IsIdentifier (trim text) ∧ ¬IsAs (trim text)) ∧
    (IsIdentifier (trim text) → ∃ tree, parse text = .ok tree ∧ tree.text = trim text ∧
      Item.ofUse ⟨tree, visibility, attributes, location⟩ platforms =
        if IsAs (trim text) then ([], [⟨useShapeMessage ⟨.rename, trim text, false⟩, location⟩])
        else (Item.modulePairs visibility attributes (trim text) platforms, [])) := by
  refine ⟨⟨fun h => ?_, fun h => ?_⟩, fun identifier =>
    exists_tree_of_identifier identifier visibility attributes location platforms⟩
  · obtain ⟨tree, parsed, yields⟩ := h
    exact identifier_of_ofUse parsed yields
  · obtain ⟨identifier, other⟩ := h
    obtain ⟨tree, parsed, -, items⟩ :=
      exists_tree_of_identifier identifier visibility attributes location platforms
    rw [if_neg other] at items
    refine ⟨tree, parsed, ?_⟩
    rw [items]
    exact Item.modulePairs_ne_nil supported visibility attributes (trim text)

theorem modules_iff_identifier_of_raw_keywords :
    ∃ type other, [Platform.macos] ≠ [] ∧ parse " r#type\n" = .ok type ∧
      parse "r#as" = .ok other ∧
      Item.ofUse ⟨type, "pub", [], ⟨3, 1⟩⟩ [.macos] =
        ([.module ⟨renderGuard [.macos], "pub", "macos", []⟩,
          .moduleAlias ⟨renderGuard [.macos], "macos", "r#type", []⟩], []) ∧
      (Item.ofUse ⟨other, "pub", [], ⟨4, 1⟩⟩ [.macos]).1 = [] := by
  have supported : [Platform.macos] ≠ [] := by decide
  obtain ⟨type, parsed, -, items⟩ :=
    (modules_iff_identifier supported " r#type\n" "pub" [] ⟨3, 1⟩).2 (by decide +kernel)
  obtain ⟨other, parsed', -, items'⟩ :=
    (modules_iff_identifier supported "r#as" "pub" [] ⟨4, 1⟩).2 (by decide +kernel)
  exact ⟨type, other, supported, parsed, parsed', items.trans (by decide +kernel),
    congrArg Prod.fst items' |>.trans (by decide +kernel)⟩

end UseTree

def Declaration.modules : Declaration → List Platform → List Item × List Diagnostic
  | .module decl, platforms => Item.ofModule decl platforms
  | .use decl, platforms => Item.ofUse decl platforms
  | _, _ => ([], [])

theorem Entry.generateItems_modules {kind : EntryKind} {declaration : Declaration}
    (fits : kind.Fits declaration) (portable : kind = .module ∨ kind = .use) (traits : List String)
    (resolution : Resolution) : generateItems kind declaration traits resolution =
      .ok (declaration.modules resolution.platforms) := by
  cases fits with
  | module => rfl
  | use => rfl
  | _ => simp at portable

theorem Entry.generate_modules {entry : Entry} (fits : entry.kind.Fits entry.declaration)
    (portable : entry.kind = .module ∨ entry.kind = .use) {block : OptionBlock}
    (parsed : entry.options = .ok block) :
    entry.generate = .ok ⟨entry.kind, entry.declaration.name,
      (entry.declaration.modules block.resolve.platforms).1,
      block.resolve.diagnostic.toList ++
        (entry.declaration.modules block.resolve.platforms).2⟩ := by
  simp only [generate, parsed, generateItems_modules fits portable]

theorem Entry.portable_of_modules {entry : Entry} (fits : entry.kind.Fits entry.declaration)
    {platforms : List Platform} (yields : (entry.declaration.modules platforms).1 ≠ []) :
    entry.kind = .module ∨ entry.kind = .use := by
  obtain ⟨kind, text, location, declaration⟩ := entry
  cases fits with
  | module => exact .inl rfl
  | use => exact .inr rfl
  | _ => exact absurd rfl yields

/-- Two identifiers are the same name if they differ at most in the mark of a raw identifier. -/
def SameName (a b : String) : Prop := dropRawMark a.toList = dropRawMark b.toList

instance (a b : String) : Decidable (SameName a b) :=
  inferInstanceAs (Decidable (dropRawMark a.toList = dropRawMark b.toList))

structure DeclaresTwoNames (pair : PlatformModule × ModuleAlias) : Prop where
  module : IsIdentifier pair.1.moduleName
  portable : IsIdentifier pair.2.name
  different : ¬SameName pair.2.name pair.1.moduleName

theorem Platform.isIdentifier_moduleName (platform : Platform) :
    IsIdentifier platform.moduleName := by
  cases platform <;> decide

theorem sameName_moduleName_iff {name : String} {platform : Platform} :
    SameName name platform.moduleName ↔
      name = platform.moduleName ∨ name = "r#" ++ platform.moduleName := by
  have plain : dropRawMark platform.moduleName.toList = platform.moduleName.toList := by
    cases platform <;> rfl
  rw [SameName, plain]
  constructor
  · intro same
    rcases dropRawMark_cases name.toList with raw | whole
    · refine .inr (String.toList_injective ?_)
      rw [raw, same, String.toList_append]
      rfl
    · rw [same] at whole
      exact .inl (String.toList_injective whole)
  · rintro (rfl | rfl)
    · exact plain
    · rw [String.toList_append]
      rfl

namespace Entry

open Manifest

structure PairOf (name : String) (platform : Platform) (pair : PlatformModule × ModuleAlias) :
    Prop where
  guard : pair.1.guard = renderGuard [platform]
  portable_guard : pair.2.guard = pair.1.guard
  module : pair.1.moduleName = platform.moduleName
  portable_module : pair.2.moduleName = pair.1.moduleName
  name : pair.2.name = name

theorem PairOf.declaresTwoNames_iff {name : String} {platform : Platform}
    {pair : PlatformModule × ModuleAlias} (made : PairOf name platform pair) :
    DeclaresTwoNames pair ↔
      IsIdentifier name ∧ name ≠ platform.moduleName ∧ name ≠ "r#" ++ platform.moduleName := by
  have same : SameName name platform.moduleName ↔ _ := sameName_moduleName_iff
  constructor
  · rintro ⟨-, identifier, different⟩
    rw [made.name] at identifier
    rw [made.name, made.module, same, not_or] at different
    exact ⟨identifier, different⟩
  · rintro ⟨identifier, different⟩
    refine ⟨made.module ▸ platform.isIdentifier_moduleName, made.name ▸ identifier, ?_⟩
    rwa [made.name, made.module, same, not_or]

theorem exists_pairs (visibility : String) (attributes : List String) (name : String)
    (platforms : List Platform) :
    ∃ pairs, Item.modulePairs visibility attributes name platforms =
        pairs.flatMap Item.ofModulePair ∧ List.Forall₂ (PairOf name) platforms pairs := by
  refine ⟨platforms.map (modulePair visibility attributes name), ?_, ?_⟩
  · rw [List.flatMap_map]
    rfl
  · rw [List.forall₂_map_right_iff]
    exact List.forall₂_same.mpr fun platform _ => ⟨rfl, rfl, rfl, rfl, rfl⟩

theorem exists_name_of_modules {entry : Entry} (loaded : entry.Loaded) {platforms : List Platform}
    (yields : (entry.declaration.modules platforms).1 ≠ []) :
    Filled entry.declaration.name ∧ (entry.kind = .use → IsIdentifier entry.declaration.name) ∧
      ∃ visibility attributes, (entry.declaration.modules platforms).1 =
        Item.modulePairs visibility attributes entry.declaration.name platforms := by
  obtain ⟨kind, text, location, declaration⟩ := entry
  obtain ⟨fits, -, known⟩ := loaded
  cases fits with
  | module decl =>
    obtain ⟨name, accepted⟩ := Item.exists_of_ofPortable yields
    obtain ⟨-, -, rfl⟩ := ModuleDecl.portableName_eq_ok.mp accepted
    refine ⟨known.name, nofun, decl.visibility, decl.attributes, ?_⟩
    simp only [Declaration.modules, Item.ofModule, accepted]
    rfl
  | use decl =>
    obtain ⟨name, accepted⟩ := Item.exists_of_ofPortable yields
    obtain ⟨-, shape, rfl⟩ := UseDecl.portableName_eq_ok.mp accepted
    obtain ⟨text, parsed⟩ := known.tree
    obtain ⟨-, filled, -⟩ := UseTree.classify_of_parse parsed
    refine ⟨filled, fun _ => (UseTree.isIdentifier_of_parse parsed shape).1, decl.visibility,
      decl.attributes, ?_⟩
    simp only [Declaration.modules, Item.ofUse, accepted]
    rfl
  | _ => exact absurd rfl yields

/-- Each platform has a module by its own name and an alias by the name that the declaration asks
for, which for a `use` declaration is an identifier. They are two names unless the declaration asks
for that of the platform. The items that the entry generates are these on its own platforms. -/
theorem names_of_modules {root : Markup.Element} {loaded : List Entry} {entry : Entry}
    (h : entries root = .ok loaded) (mem : entry ∈ loaded) {platforms : List Platform}
    (yields : (entry.declaration.modules platforms).1 ≠ []) :
    Filled entry.declaration.name ∧ (entry.kind = .use → IsIdentifier entry.declaration.name) ∧
      (∀ block, entry.options = .ok block →
        entry.generate = .ok ⟨entry.kind, entry.declaration.name,
          (entry.declaration.modules block.resolve.platforms).1,
          block.resolve.diagnostic.toList ++
            (entry.declaration.modules block.resolve.platforms).2⟩) ∧
      ∃ pairs, (entry.declaration.modules platforms).1 = pairs.flatMap Item.ofModulePair ∧
        List.Forall₂ (fun platform pair => PairOf entry.declaration.name platform pair ∧
          (DeclaresTwoNames pair ↔ IsIdentifier entry.declaration.name ∧
            entry.declaration.name ≠ platform.moduleName ∧
            entry.declaration.name ≠ "r#" ++ platform.moduleName)) platforms pairs := by
  have loaded := loaded_of_entries h mem
  obtain ⟨filled, identifier, visibility, attributes, items⟩ := exists_name_of_modules loaded yields
  obtain ⟨pairs, same, each⟩ :=
    exists_pairs visibility attributes entry.declaration.name platforms
  have portable := portable_of_modules loaded.fits yields
  exact ⟨filled, identifier, fun _ parsed => generate_modules loaded.fits portable parsed, pairs,
    items.trans same, each.imp fun _ _ made => ⟨made, made.declaresTwoNames_iff⟩⟩

theorem names_of_modules_of_raw_name :
    ∃ (entry : Entry) (pair : PlatformModule × ModuleAlias),
      entries ⟨"manifest", [], none, [⟨"use", [("tree", " r#type ")], none, []⟩]⟩ = .ok [entry] ∧
      (entry.declaration.modules [.linux]).1 = Item.ofModulePair pair ∧
      pair.1.moduleName = "linux" ∧ pair.2.name = "r#type" ∧ DeclaresTwoNames pair := by
  have read : entries ⟨"manifest", [], none, [⟨"use", [("tree", " r#type ")], none, []⟩]⟩ =
      .ok [⟨.use, "", ⟨0, 0⟩, .use ⟨⟨.name, "r#type", false⟩, "", [], ⟨0, 0⟩⟩⟩] :=
    eq_ok_of_toOption (by decide +kernel)
  have yields : ((Declaration.use ⟨⟨.name, "r#type", false⟩, "", [], ⟨0, 0⟩⟩).modules
      [.linux]).1 ≠ [] := by decide
  obtain ⟨-, -, -, pairs, items, each⟩ := names_of_modules read (List.mem_singleton_self _) yields
  obtain ⟨pair, _, ⟨made, different⟩, none, rfl⟩ := List.forall₂_cons_left_iff.mp each
  cases none
  refine ⟨_, pair, read, items.trans (List.flatMap_singleton _ _), made.module, made.name, ?_⟩
  exact different.mpr (by decide)

/-- The name that is asked for may be that of a platform, and for a `mod` declaration it may be no
identifier. -/
theorem not_two_names_of_unchecked_names :
    ∃ (linux spaced : Entry) (pair broken : PlatformModule × ModuleAlias),
      entries ⟨"manifest", [], none,
        [⟨"use", [("tree", "linux")], none, []⟩, ⟨"mod", [("name", "a b")], none, []⟩]⟩ =
          .ok [linux, spaced] ∧
      (linux.declaration.modules [.linux]).1 = Item.ofModulePair pair ∧
      pair.2.name = pair.1.moduleName ∧
      (spaced.declaration.modules [.linux]).1 = Item.ofModulePair broken ∧
      ¬IsIdentifier broken.2.name := by
  have read : entries ⟨"manifest", [], none,
      [⟨"use", [("tree", "linux")], none, []⟩, ⟨"mod", [("name", "a b")], none, []⟩]⟩ =
      .ok [⟨.use, "", ⟨0, 0⟩, .use ⟨⟨.name, "linux", false⟩, "", [], ⟨0, 0⟩⟩⟩,
        ⟨.module, "", ⟨0, 0⟩, .module ⟨"a b", "", [], false, none, ⟨0, 0⟩⟩⟩] :=
    eq_ok_of_toOption (by decide +kernel)
  exact ⟨_, _, modulePair "" [] "linux" .linux, modulePair "" [] "a b" .linux, read, rfl, rfl, rfl,
    by decide⟩

end Entry

end PlatformGate
