import PlatformGate.Proofs.Command.Generate
import PlatformGate.Proofs.Options.Permission

/-! What is answered about an option text is what is generated from it. A text that can be resolved
on the command line is one without traits, and the platforms and the guard of the answer are those
of the items of every entry that has the text, wherever the entry stands. -/

namespace PlatformGate

namespace Item

def declaredGuard? : Item → Option String
  | function item => some item.guard
  | struct item => some item.guard
  | _ => none

def alias? : Item → Option (String × String)
  | typeAlias item => some (item.guard, item.name)
  | _ => none

def module? : Item → Option (String × String)
  | module item => some (item.guard, item.moduleName)
  | _ => none

theorem filterMap_declaredGuard?_ofCallable (decl : Callable) (guard : String) :
    ((GuardedFn.ofCallable decl guard).1.toList.map function).filterMap declaredGuard? =
      if decl.body.isNone ∧ decl.signature.variadic.isSome then [] else [guard] := by
  rw [GuardedFn.ofCallable_eq]
  split_ifs <;> rfl

theorem filterMap_declaredGuard?_ofStruct (decl : StructDecl) (traits : List String)
    (resolution : Resolution) :
    (ofStruct decl traits resolution).filterMap declaredGuard? = [resolution.guard] := by
  unfold ofStruct TraitAssertion.ofStruct
  split <;> simp [declaredGuard?, List.filterMap_cons, List.filterMap_append, List.filterMap_map,
    Function.comp_def]

theorem filterMap_alias?_ofStruct (decl : StructDecl) (traits : List String)
    (resolution : Resolution) :
    (ofStruct decl traits resolution).filterMap alias? =
      resolution.platforms.map fun p => (renderGuard [p], decl.name ++ p.aliasSuffix) := by
  unfold ofStruct TraitAssertion.ofStruct
  split <;> simp [alias?, TypeAlias.ofStruct, List.filterMap_cons, List.filterMap_append,
    List.filterMap_map, Function.comp_def]

theorem filterMap_module?_ofPortable {portableName : Except Diagnostic String} {name : String}
    {rejected : Prop} [Decidable rejected]
    (asked : portableName.toOption = if rejected then none else some name)
    (visibility : String) (attributes : List String) (platforms : List Platform) :
    (ofPortable portableName visibility attributes platforms).1.filterMap module? =
      if rejected then [] else platforms.map fun p => (renderGuard [p], p.moduleName) := by
  cases portableName with
  | error diagnostic =>
    have isRejected : rejected := by
      by_contra accepted
      rw [if_neg accepted] at asked
      cases asked
    rw [if_pos isRejected]
    rfl
  | ok portable =>
    have accepted : ¬rejected := by
      intro isRejected
      rw [if_pos isRejected] at asked
      cases asked
    rw [if_neg accepted]
    simp [ofPortable, ofModulePair, modulePair, module?, List.filterMap_flatMap,
      List.filterMap_cons, ← List.map_eq_flatMap]

end Item

/-- What the items of an entry have to be under an answer with the given guard and platforms. -/
def CarriesOut (guard : String) (platforms : List Platform) :
    EntryKind → Declaration → List Item → Prop
  | .function, .callable decl, items =>
    items.filterMap Item.declaredGuard? =
      if decl.body.isNone ∧ decl.signature.variadic.isSome then [] else [guard]
  | .traitFunction, .callable _, items => items.filterMap Item.declaredGuard? = [guard]
  | .struct, .struct decl, items =>
    items.filterMap Item.declaredGuard? = [guard] ∧
      items.filterMap Item.alias? =
        platforms.map fun p => (renderGuard [p], decl.name ++ p.aliasSuffix)
  | .module, .module decl, items =>
    items.filterMap Item.module? =
      if decl.isUnsafe ∨ decl.inlineBody.isSome then []
      else platforms.map fun p => (renderGuard [p], p.moduleName)
  | .use, .use decl, items =>
    items.filterMap Item.module? =
      if decl.tree.leadingColons ∨ decl.tree.shape ≠ .name then []
      else platforms.map fun p => (renderGuard [p], p.moduleName)
  | _, _, _ => False

namespace Entry

theorem exists_carriesOut {kind : EntryKind} {declaration : Declaration}
    (fits : kind.Fits declaration) (traits : List String) (resolution : Resolution) :
    ∃ items diagnostics, generateItems kind declaration traits resolution =
        .ok (items, diagnostics) ∧
      CarriesOut resolution.guard resolution.platforms kind declaration items := by
  cases fits with
  | function decl =>
    exact ⟨_, _, rfl, Item.filterMap_declaredGuard?_ofCallable decl resolution.guard⟩
  | traitFunction decl => exact ⟨_, _, rfl, rfl⟩
  | struct decl =>
    exact ⟨_, _, rfl, Item.filterMap_declaredGuard?_ofStruct decl traits resolution,
      Item.filterMap_alias?_ofStruct decl traits resolution⟩
  | module decl =>
    exact ⟨_, _, rfl, Item.filterMap_module?_ofPortable decl.toOption_portableName decl.visibility
      decl.attributes resolution.platforms⟩
  | use decl =>
    exact ⟨_, _, rfl, Item.filterMap_module?_ofPortable decl.toOption_portableName decl.visibility
      decl.attributes resolution.platforms⟩

theorem exists_generate_of_parse {entry : Entry} {location : Location} {block : OptionBlock}
    (fits : entry.kind.Fits entry.declaration)
    (parsed : OptionBlock.parse entry.optionsText false location = .ok block) :
    ∃ output, entry.generate = .ok output ∧
      CarriesOut block.resolve.guard block.resolve.platforms entry.kind entry.declaration
        output.items := by
  have here := OptionBlock.parse_elsewhere parsed entry.optionsLocation
  generalize moved : { block with location := entry.optionsLocation } = own at here
  have options : entry.options = .ok own := by
    unfold options
    cases entry.kind == .struct with
    | false => exact here
    | true => exact OptionBlock.parse_of_parse_without_traits here
  obtain ⟨items, diagnostics, made, carried⟩ := exists_carriesOut fits own.traits own.resolve
  refine ⟨⟨entry.kind, entry.declaration.name, items,
    own.resolve.diagnostic.toList ++ diagnostics⟩, ?_, ?_⟩
  · simp only [generate, options, made]
  · rw [← moved] at carried
    exact carried

end Entry

namespace Discovery

def platformsText (platforms : List Platform) : String :=
  if platforms = [] then "(none)" else ", ".intercalate (platforms.map Platform.name)

theorem intercalate_names_eq_empty {platforms : List Platform} :
    ", ".intercalate (platforms.map Platform.name) = "" ↔ platforms = [] := by
  cases platforms with
  | nil => exact iff_of_true rfl rfl
  | cons platform platforms =>
    have named : platform.name ≠ "" := by cases platform <;> decide
    refine iff_of_false (fun empty => ?_) (List.cons_ne_nil _ _)
    cases platforms with
    | nil => simp [named] at empty
    | cons next platforms => simp [String.intercalate_cons_cons] at empty

def answer (optionsText : String) (platforms : List Platform) (guard : String) : String :=
  Text.endLines
    (["Options:   " ++
        (if Text.trim optionsText = "" then "(defaults)" else Text.trim optionsText),
      "Platforms: " ++ platformsText platforms,
      "Guard:     " ++ ("#[cfg(" ++ guard ++ ")]")] ++
      if platforms = [] then ["Error:     " ++ Resolution.emptyMessage] else [])

theorem resolutionReport_resolve (text : String) (block : OptionBlock) :
    resolutionReport text block.resolve =
      answer text block.resolve.platforms block.resolve.guard := by
  simp only [resolutionReport, OptionBlock.diagnostic_resolve, intercalate_names_eq_empty]
  rw [answer, platformsText, renderCfg]
  split_ifs <;> rfl

end Discovery

namespace Command

open Options

variable {σ : Type}

/-- The words of the command line are a question about the option text, which can be answered. -/
def AsksFor (words : List String) (text : String) : Prop :=
  ∃ arguments, Request.ofWords words = .ok (.run arguments) ∧
    arguments.intent = .ok (.resolve text)

theorem exists_parse_of_asksFor {words : List String} {text : String} (asked : AsksFor words text) :
    ∃ block, OptionBlock.parse text false .unstated = .ok block := by
  obtain ⟨arguments, -, h⟩ := asked
  unfold Arguments.intent at h
  simp only at h
  split_ifs at h
  · cases h
  split at h
  next => cases h
  next asked =>
    split at h
    next => cases h
    next block parsed =>
      cases h
      exact ⟨block, parsed⟩
  next => split at h <;> cases h

theorem head?_ne_of_parse {text : String} {location : Location} {block : OptionBlock}
    (h : OptionBlock.parse text false location = .ok block) : text.toList.head? ≠ some '-' := by
  intro minus
  obtain ⟨rest, split⟩ := List.head?_eq_some_iff.mp minus
  obtain ⟨clauses, derived, -⟩ := OptionBlock.parse_eq_ok.mp h
  have read := Options.readClauses_eq_done.mpr ⟨derived, rfl⟩
  have start : Text.skipBlank ('-' :: rest) = '-' :: rest := Text.skipBlank_cons rfl rest
  have name : leadingName ('-' :: rest) = [] := rfl
  have refused : Options.readClause false ('-' :: rest) =
      .failed (.clause false) ('-' :: rest) ('-' :: rest) := by
    simp only [Options.readClause, start, name]
    rw [if_neg (by decide), if_neg (by decide), if_neg (by simp)]
  rw [Options.readClauses_eq, split, start, refused] at read
  cases read

theorem classifyAll_cons {word : String} (separate : word ≠ "--") (rest : List String) :
    classifyAll (word :: rest) = do
      let first ← classify word
      return first :: (← classifyAll rest) := by
  rw [classifyAll]
  exact fun same => separate same

theorem asksFor_of_parse {text : String} {block : OptionBlock}
    (h : OptionBlock.parse text false .unstated = .ok block) :
    AsksFor ["--resolve", text] text := by
  have start := head?_ne_of_parse h
  have separate : text ≠ "--" := by
    intro same
    rw [same] at start
    exact start rfl
  have option : classify "--resolve" = .ok (.option .resolve false none) :=
    eq_ok_of_toOption (by decide +kernel)
  have value : classify text = .ok (.plain text) := by
    simp only [classify]
    rw [if_pos (.inl start)]
  have words : classifyAll ["--resolve", text] =
      .ok [.option .resolve false none, .plain text] := by
    rw [classifyAll_cons (by decide), classifyAll_cons separate, option, value]
    rfl
  refine ⟨⟨none, none, false, some (.text text)⟩, ?_, ?_⟩
  · rw [Request.ofWords, words]
    rfl
  · simp only [Arguments.intent, h]
    rfl

theorem run_of_asksFor {words : List String} {text : String} (asked : AsksFor words text)
    (files : FileSystem (StateM σ)) (state : σ) :
    run files words state = (.ok (runResolve text), state) := by
  obtain ⟨arguments, understood, intent⟩ := asked
  rw [run, understood]
  simp only [Arguments.config, intent]
  rfl

theorem runResolve_of_parse {text : String} {block : OptionBlock}
    (h : OptionBlock.parse text false .unstated = .ok block) :
    runResolve text = ⟨if block.resolve.platforms = [] then 1 else 0,
      Discovery.answer text block.resolve.platforms block.resolve.guard, ""⟩ := by
  rw [runResolve, h]
  simp only [Discovery.resolutionReport_resolve, OptionBlock.diagnostic_resolve]
  by_cases none : block.resolve.platforms = []
  · simp only [if_pos none, Option.isSome_some]
    rfl
  · simp only [if_neg none, Option.isSome_none, Bool.false_eq_true]
    rfl

/-- Without traits an option text means the same whether or not they are allowed, and with them it
is refused at the first list of traits where they are not. So the answer to a question about an
option text holds for every entry with that text. -/
theorem answer_agrees_with_generation :
    (∀ text location block, OptionBlock.parse text false location = .ok block →
      OptionBlock.parse text true location = .ok block ∧ block.traits = []) ∧
    (∀ text location block, OptionBlock.parse text true location = .ok block →
      block.traits ≠ [] → ∃ clauses front s before clause,
        BlockText true text.toList clauses ∧
        FirstSpecial (ClauseText false) TraitsText text.toList clauses front s before clause ∧
        OptionBlock.parse text false location = .error
          ⟨"expected one of: `include`, `exclude`",
            location.advance text.toList front.length⟩) ∧
    (∀ text block, OptionBlock.parse text false .unstated = .ok block →
      AsksFor ["--resolve", text] text) ∧
    ∀ words text, AsksFor words text → ∃ platforms guard,
      (∀ {σ : Type} (files : FileSystem (StateM σ)) (state : σ), run files words state =
        (.ok ⟨if platforms = [] then 1 else 0, Discovery.answer text platforms guard, ""⟩,
          state)) ∧
      ∀ entry : Entry, entry.optionsText = text → entry.kind.Fits entry.declaration →
        ∃ output, entry.generate = .ok output ∧
          CarriesOut guard platforms entry.kind entry.declaration output.items := by
  refine ⟨fun text location block h => ?_, fun text location block h some => ?_,
    fun text block h => asksFor_of_parse h, fun words text asked => ?_⟩
  · exact ⟨OptionBlock.parse_of_parse_without_traits h, OptionBlock.traits_eq_nil h⟩
  · obtain ⟨clauses, front, s, before, clause, derived, first⟩ :=
      OptionBlock.exists_first_traits h some
    exact ⟨clauses, front, s, before, clause, derived, first,
      OptionBlock.parse_of_first_traits first location⟩
  · obtain ⟨block, parsed⟩ := exists_parse_of_asksFor asked
    refine ⟨block.resolve.platforms, block.resolve.guard, fun files state => ?_, ?_⟩
    · rw [run_of_asksFor asked, runResolve_of_parse parsed]
    · intro entry same fits
      rw [← same] at parsed
      exact Entry.exists_generate_of_parse fits parsed

theorem answer_agrees_with_generation_of_posix :
    (∃ place, OptionBlock.parse "include(linux), traits(Send)" false ⟨1, 1⟩ =
      .error ⟨"expected one of: `include`, `exclude`", place⟩) ∧
    ∃ platforms guard output,
      run Workspace.fileSystem ["--resolve", "exclude(posix),"] ⟨"/work", []⟩ =
        (.ok ⟨if platforms = [] then 1 else 0,
          Discovery.answer "exclude(posix)," platforms guard, ""⟩, ⟨"/work", []⟩) ∧
      Entry.generate ⟨.struct, "exclude(posix),", ⟨3, 5⟩,
        .struct ⟨"Handle", "", [], ⟨[], []⟩, ";", ⟨3, 1⟩⟩⟩ = .ok output ∧
      output.items.filterMap Item.declaredGuard? = [guard] := by
  obtain ⟨-, refused, accepted, answered⟩ := answer_agrees_with_generation
  have traits : OptionBlock.parse "include(linux), traits(Send)" true ⟨1, 1⟩ =
      .ok ⟨[.linux], [], ["Send"], ⟨1, 1⟩⟩ := eq_ok_of_toOption (by decide +kernel)
  have plain : OptionBlock.parse "exclude(posix)," false ⟨0, 0⟩ =
      .ok ⟨[.all], [.posix], [], ⟨0, 0⟩⟩ := eq_ok_of_toOption (by decide +kernel)
  constructor
  · obtain ⟨_, _, _, _, _, -, -, fault⟩ := refused _ _ _ traits (List.cons_ne_nil _ _)
    exact ⟨_, fault⟩
  · obtain ⟨platforms, guard, printed, gated⟩ := answered _ _ (accepted _ _ plain)
    obtain ⟨output, generated, own, -⟩ := gated ⟨.struct, "exclude(posix),", ⟨3, 5⟩,
      .struct ⟨"Handle", "", [], ⟨[], []⟩, ";", ⟨3, 1⟩⟩⟩ rfl (.struct _)
    exact ⟨platforms, guard, output, printed _ _, generated, own⟩

end Command

end PlatformGate
