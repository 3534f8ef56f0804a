import PlatformGate.Proofs.Diagnostics
import PlatformGate.Proofs.Options.Message
import PlatformGate.Proofs.SourceLayout
import PlatformGate.Proofs.UseTree

/-! Carriage returns in the string literals of the generated file. A literal has those of its text,
since they are not escaped. A message gets them from what it quotes of a declaration, a signature
from its ABI; only a function that is written with its body is divided at them. -/

namespace PlatformGate

open Text

theorem Text.hasReturn_between {left text right : String} (before : ¬HasReturn left)
    (behind : ¬HasReturn right) : HasReturn (left ++ text ++ right) ↔ HasReturn text := by
  rw [hasReturn_append, hasReturn_append]
  simp only [before, behind, false_or, or_false]

theorem Diagnostic.hasReturn_compileError {diagnostic : Diagnostic} :
    HasReturn diagnostic.compileError ↔ HasReturn diagnostic.message := by
  rw [compileError_eq, hasReturn_between (not_hasReturn_ofList (by decide))
    (not_hasReturn_ofList (by decide)), hasReturn_literal]

theorem hasReturn_patternMessage {pattern : String} :
    HasReturn (patternMessage pattern) ↔ HasReturn pattern :=
  hasReturn_between (not_hasReturn_ofList (by decide)) (not_hasReturn_ofList (by decide))

theorem hasReturn_variadicMessage {variadic : Variadic} :
    HasReturn (variadicMessage variadic) ↔ ∃ name ∈ variadic.name, HasReturn name := by
  have rendered : HasReturn variadic.render ↔ HasReturn (variadic.name.getD "") := by
    unfold Variadic.render
    by_cases unnamed : variadic.name.getD "" = ""
    · simp only [unnamed, if_true]
      decide
    · have constant : ¬HasReturn ": ..." := not_hasReturn_ofList (by decide)
      simp only [if_neg unnamed, hasReturn_append, constant, or_false]
  unfold variadicMessage
  rw [hasReturn_between (not_hasReturn_ofList (by decide)) (not_hasReturn_ofList (by decide)),
    rendered]
  cases variadic.name with
  | none => exact iff_of_false (by decide) nofun
  | some name => simp

theorem UseShape.plain_of_classify {body : List Char} {shape : UseShape}
    (h : UseShape.classify body = some shape) : ¬HasReturn shape.keyword := by
  unfold UseShape.classify at h
  split_ifs at h <;> cases h <;> exact not_hasReturn_ofList (by decide)

theorem hasReturn_useShapeMessage {tree : UseTree} (known : ¬HasReturn tree.shape.keyword) :
    HasReturn (useShapeMessage tree) ↔ HasReturn tree.text := by
  refine hasReturn_between ?_ (not_hasReturn_ofList (by decide))
  simp only [hasReturn_append, not_or]
  exact ⟨⟨⟨not_hasReturn_ofList (by decide), not_hasReturn_ofList (by decide)⟩, known⟩,
    not_hasReturn_ofList (by decide)⟩

/-- The texts of a declaration that a diagnostic about it quotes. -/
inductive Declaration.Quotes : Declaration → Diagnostic → String → Prop
  | pattern {decl : Callable} {param : Parameter} (listed : param ∈ decl.signature.params) :
      Quotes (.callable decl) ⟨patternMessage param.pattern, param.location⟩ param.pattern
  | variadic {decl : Callable} {variadic : Variadic} {name : String}
      (taken : decl.signature.variadic = some variadic) (named : variadic.name = some name) :
      Quotes (.callable decl) ⟨variadicMessage variadic, variadic.location⟩ name
  | tree {decl : UseDecl} :
      Quotes (.use decl) ⟨useShapeMessage decl.tree, decl.location⟩ decl.tree.text

section Diagnostics

variable {entry : Entry} {diagnostic : Diagnostic}

theorem hasReturn_of_quotes {text : String} (loaded : entry.Loaded)
    (quotes : entry.declaration.Quotes diagnostic text) (h : HasReturn text) :
    HasReturn diagnostic.message := by
  obtain ⟨kind, options, location, declaration⟩ := entry
  obtain ⟨-, -, known⟩ := loaded
  cases quotes with
  | pattern => exact hasReturn_patternMessage.mpr h
  | variadic _ named => exact hasReturn_variadicMessage.mpr ⟨_, named, h⟩
  | tree =>
    obtain ⟨text, parsed⟩ := known.tree
    exact (hasReturn_useShapeMessage
      (UseShape.plain_of_classify (UseTree.classify_of_parse parsed).1)).mpr h

theorem Callable.exists_quotes {decl : Callable} (mem : diagnostic ∈ decl.faults)
    (h : HasReturn diagnostic.message) :
    ∃ text, (Declaration.callable decl).Quotes diagnostic text ∧ HasReturn text := by
  unfold faults at mem
  split at mem
  next => cases mem
  next =>
    rcases List.mem_append.mp mem with complex | variadic
    · obtain ⟨param, listed, rfl⟩ := List.mem_map.mp complex
      exact ⟨_, .pattern (List.mem_of_mem_filter listed), hasReturn_patternMessage.mp h⟩
    · split at variadic
      next variadic taken =>
        cases List.mem_singleton.mp ‹_›
        obtain ⟨name, named, inName⟩ := hasReturn_variadicMessage.mp h
        exact ⟨name, .variadic taken named, inName⟩
      next => cases variadic

theorem plain_inlineModuleMessage : ¬HasReturn inlineModuleMessage := by
  unfold inlineModuleMessage
  rw [hasReturn_between (not_hasReturn_ofList (by decide)) (not_hasReturn_ofList (by decide))]
  exact not_hasReturn_ofList (by decide)

theorem ModuleDecl.plain_of_objections {decl : ModuleDecl} {message : String}
    (mem : message ∈ decl.objections) : ¬HasReturn message := by
  unfold objections at mem
  rcases List.mem_append.mp mem with isUnsafe | isInline
  · split_ifs at isUnsafe
    · cases List.mem_singleton.mp isUnsafe
      exact not_hasReturn_ofList (by decide)
    · cases isUnsafe
  · split_ifs at isInline
    · cases List.mem_singleton.mp isInline
      exact plain_inlineModuleMessage
    · cases isInline

theorem UseDecl.eq_of_objections {decl : UseDecl} {message : String}
    (mem : message ∈ decl.objections) (h : HasReturn message) :
    message = useShapeMessage decl.tree := by
  unfold objections at mem
  rcases List.mem_append.mp mem with isAbsolute | shaped
  · split_ifs at isAbsolute
    · cases List.mem_singleton.mp isAbsolute
      exact absurd h (not_hasReturn_ofList (by decide))
    · cases isAbsolute
  · split_ifs at shaped
    · exact List.mem_singleton.mp shaped
    · cases shaped

theorem exists_quotes_of_faults (loaded : entry.Loaded)
    (mem : diagnostic ∈ entry.declaration.faults entry.kind) (h : HasReturn diagnostic.message) :
    ∃ text, entry.declaration.Quotes diagnostic text ∧ HasReturn text := by
  obtain ⟨kind, options, location, declaration⟩ := entry
  obtain ⟨fits, -, known⟩ := loaded
  cases fits with
  | function decl => exact Callable.exists_quotes mem h
  | traitFunction => cases mem
  | struct => cases mem
  | module decl =>
    obtain ⟨message, first, rfl⟩ := List.mem_map.mp mem
    exact absurd h (ModuleDecl.plain_of_objections (List.mem_of_mem_take first))
  | use decl =>
    obtain ⟨message, first, rfl⟩ := List.mem_map.mp mem
    obtain ⟨text, parsed⟩ := UseDecl.Loaded.tree known
    cases UseDecl.eq_of_objections (List.mem_of_mem_take first) h
    exact ⟨decl.tree.text, .tree, (hasReturn_useShapeMessage
      (UseShape.plain_of_classify (UseTree.classify_of_parse parsed).1)).mp h⟩

theorem hasReturn_iff_quotes {output : EntryOutput} (loaded : entry.Loaded)
    (generated : entry.generate = .ok output) (mem : diagnostic ∈ output.diagnostics) :
    HasReturn diagnostic.compileError ↔
      ∃ text, entry.declaration.Quotes diagnostic text ∧ HasReturn text := by
  rw [Diagnostic.hasReturn_compileError]
  refine ⟨fun h => ?_, fun ⟨text, quotes, h⟩ => hasReturn_of_quotes loaded quotes h⟩
  -- Either the option text was refused, and its message quotes nothing of the declaration, or the
  -- diagnostics come from the resolution and from the declaration itself.
  rcases Entry.generate_cases generated with
    ⟨refusal, refused, rfl⟩ | ⟨block, items, diagnostics, parsed, made, rfl⟩
  · cases List.mem_singleton.mp mem
    obtain ⟨fault, place, rest, failed, rfl⟩ := OptionBlock.parse_eq_error.mp refused
    exact absurd h ((Options.faults_readClauses _ _).of_failed failed)
  · rcases List.mem_append.mp mem with resolved | reported
    · rw [block.diagnostic_resolve] at resolved
      split_ifs at resolved
      · have constant : ¬HasReturn Resolution.emptyMessage := not_hasReturn_ofList (by decide)
        cases List.mem_singleton.mp resolved
        exact absurd h constant
      · cases resolved
    · rw [Entry.generateItems_reports loaded made] at reported
      exact exists_quotes_of_faults loaded reported h

end Diagnostics

theorem Text.exists_intercalate_of_mem (separator : String) {text : String} {texts : List String}
    (mem : text ∈ texts) :
    ∃ front behind, separator.intercalate texts = front ++ text ++ behind := by
  induction texts with
  | nil => cases mem
  | cons first others ih =>
    cases others with
    | nil =>
      cases List.mem_singleton.mp mem
      exact ⟨"", "", by simp⟩
    | cons second others =>
      rw [String.intercalate_cons_cons]
      rcases List.mem_cons.mp mem with rfl | later
      · exact ⟨"", separator ++ separator.intercalate (second :: others),
          by simp [String.append_assoc]⟩
      · obtain ⟨front, behind, split⟩ := ih later
        exact ⟨first ++ separator ++ front, behind, by simp [split, String.append_assoc]⟩

theorem Text.not_hasReturn_of_mem_splitLines {text line : String} (mem : line ∈ splitLines text) :
    ¬HasReturn line := by
  obtain ⟨letters, divided, rfl⟩ := List.mem_map.mp mem
  intro inLine
  rw [HasReturn, String.toList_ofList] at inLine
  have within : isLineEnd '\r' = false := not_isLineEnd_of_mem_lines divided _ inLine
  cases within

def abiText (abi : String) : String := "extern " ++ literal abi

theorem hasReturn_abiText {abi : String} : HasReturn (abiText abi) ↔ HasReturn abi := by
  have constant : ¬HasReturn "extern " := not_hasReturn_ofList (by decide)
  rw [abiText, hasReturn_append, hasReturn_literal]
  simp only [constant, false_or]

theorem Signature.exists_abiText {signature : Signature} {abi : String}
    (h : signature.abi = some abi) (visibility : String) :
    ∃ front behind, signature.render visibility = front ++ abiText abi ++ behind := by
  have mem : abiText abi ∈ signature.qualifiers visibility ++ ["fn", signature.name] := by
    simp [qualifiers, h, abiText]
  obtain ⟨front, behind, split⟩ := exists_intercalate_of_mem " " mem
  unfold render
  rw [split]
  -- Everything behind the qualifiers and the name follows the ABI.
  simp only [String.append_assoc]
  exact ⟨front, _, rfl⟩

namespace GuardedFn

variable {item : GuardedFn}

/-- Signature and body are written as they stand, and divided into lines. -/
def IsDivided (item : GuardedFn) : Prop := item.forward = none ∧ item.decl.body.isSome

theorem plain_of_isDivided (divided : item.IsDivided) : ∀ line ∈ item.body, ¬HasReturn line := by
  obtain ⟨unforwarded, hasBody⟩ := divided
  obtain ⟨block, held⟩ := Option.isSome_iff_exists.mp hasBody
  unfold body
  rw [unforwarded, held]
  exact fun line => not_hasReturn_of_mem_splitLines

theorem exists_abiText {abi : String} (h : item.decl.signature.abi = some abi)
    (undivided : ¬item.IsDivided) :
    ∃ line ∈ item.body, ∃ front behind, line = front ++ abiText abi ++ behind := by
  obtain ⟨front, behind, signature⟩ := Signature.exists_abiText h item.decl.visibility
  unfold body
  cases forward : item.forward with
  | some call =>
    refine ⟨_, List.mem_cons_self, front, behind ++ " \x7b", ?_⟩
    rw [signature, String.append_assoc]
  | none =>
    cases held : item.decl.body with
    | some block => exact absurd ⟨forward, held ▸ rfl⟩ undivided
    | none =>
      refine ⟨_, List.mem_cons_self, front, behind ++ ";", ?_⟩
      rw [signature, String.append_assoc]

end GuardedFn

def Text.IsLineOf (text line : String) : Prop :=
  ∃ above below, text = endLines above ++ line ++ "\n" ++ endLines below

theorem Text.isLineOf_endLines {texts : List String} {line : String} (mem : line ∈ texts) :
    IsLineOf (endLines texts) line := by
  obtain ⟨above, below, rfl⟩ := List.append_of_mem mem
  refine ⟨above, below, ?_⟩
  rw [← List.singleton_append, endLines_append, endLines_append]
  simp [endLines, String.append_assoc]

namespace EntryOutput

variable {output : EntryOutput}

theorem compileError_mem_lines {diagnostic : Diagnostic} (mem : diagnostic ∈ output.diagnostics) :
    diagnostic.compileError ∈ output.lines := by
  rw [lines_eq]
  exact List.mem_append_left _ (List.mem_map_of_mem mem)

theorem mem_itemLines {opens : Bool} {items : List Item} {item : Item} (mem : item ∈ items)
    {line : String} (inItem : line ∈ item.lines) : line ∈ itemLines opens items := by
  induction items generalizing opens with
  | nil => cases mem
  | cons first others ih =>
    rcases List.mem_cons.mp mem with rfl | later
    · refine List.mem_append_left _ ?_
      cases opens
      · exact List.mem_cons_of_mem _ inItem
      · exact inItem
    · exact List.mem_append_right _ (ih later)

theorem body_mem_lines {item : GuardedFn} (mem : .function item ∈ output.items) {line : String}
    (inBody : line ∈ item.body) : line ∈ output.lines := by
  have inItem : line ∈ (Item.function item).lines := List.mem_append_right _ inBody
  rw [lines_eq]
  exact List.mem_append_right _ (mem_itemLines mem inItem)

end EntryOutput

/-- The literals that an entry brings into the file, with the carriage returns in them. -/
structure Entry.Written (entry : Entry) (output : EntryOutput) (source : String) : Prop where
  generate : entry.generate = .ok output
  reported : ∀ diagnostic ∈ output.diagnostics, IsLineOf source diagnostic.compileError ∧
    (HasReturn diagnostic.compileError ↔
      ∃ text, entry.declaration.Quotes diagnostic text ∧ HasReturn text)
  divided : ∀ item, .function item ∈ output.items → item.IsDivided →
    ∀ line ∈ item.body, IsLineOf source line ∧ ¬HasReturn line
  abi : ∀ item abi, .function item ∈ output.items → item.decl.signature.abi = some abi →
    ¬item.IsDivided →
    (∃ line ∈ item.body, IsLineOf source line ∧
      ∃ front behind, line = front ++ abiText abi ++ behind) ∧
    (HasReturn (abiText abi) ↔ HasReturn abi)

theorem Entry.written_of_generate {entry : Entry} {output : EntryOutput} {source : String}
    (loaded : entry.Loaded) (generated : entry.generate = .ok output)
    (inFile : ∀ line ∈ output.lines, IsLineOf source line) : entry.Written output source where
  generate := generated
  reported diagnostic mem := ⟨inFile _ (output.compileError_mem_lines mem),
    hasReturn_iff_quotes loaded generated mem⟩
  divided item mem divided line inBody := ⟨inFile _ (output.body_mem_lines mem inBody),
    GuardedFn.plain_of_isDivided divided line inBody⟩
  abi item abi mem ofAbi undivided := by
    obtain ⟨line, inBody, found⟩ := GuardedFn.exists_abiText ofAbi undivided
    exact ⟨⟨line, inBody, inFile _ (output.body_mem_lines mem inBody), found⟩,
      hasReturn_abiText⟩

namespace SourceFile

/-- In the file of a manifest a compiler error has a carriage return exactly if the diagnostic
quotes one, and the ABI of a signature that stands without a body exactly if it is given one. -/
theorem carriage_returns_of_entries {label : String} (named : label ≠ "") {root : Markup.Element}
    {loaded : List Entry} (h : Manifest.entries root = .ok loaded) :
    ∃ outputs source, Generation.outputsOf loaded = .ok outputs ∧
      assemble label outputs = .ok source ∧
      List.Forall₂ (fun entry output => entry.Written output source) loaded outputs := by
  have known : ∀ entry ∈ loaded, entry.IsFromManifest := fun entry mem => ⟨root, loaded, h, mem⟩
  obtain ⟨outputs, source, generated, written, rfl, -⟩ := layout_of_entries named known
  refine ⟨outputs, _, generated, written, ?_⟩
  have each := List.forall₂_iff_get.mp (Generation.outputsOf_eq_ok.mp generated)
  refine List.forall₂_iff_get.mpr ⟨each.1, fun i hi hi' => ?_⟩
  refine Entry.written_of_generate (known _ (List.get_mem ..)).loaded (each.2 i hi hi')
    fun line mem => isLineOf_endLines ?_
  exact List.mem_append_right _
    (List.mem_flatMap.mpr ⟨_, List.get_mem .., List.mem_cons_of_mem _ mem⟩)

theorem carriage_returns_of_entries_with_wrapper :
    ∃ (entry : Entry) (output : EntryOutput) (source : String),
      Manifest.entries ⟨"manifest", [], none, [⟨"function", [("name", "f"), ("abi", "C\r")], none,
        [⟨"param", [("pattern", "(a,\rb)"), ("type", "P")], none, []⟩]⟩]⟩ = .ok [entry] ∧
      entry.generate = .ok output ∧ assemble "decls.xml" [output] = .ok source ∧
      (∃ diagnostic ∈ output.diagnostics, IsLineOf source diagnostic.compileError ∧
        HasReturn diagnostic.compileError) ∧
      ∃ line front behind, IsLineOf source line ∧ line = front ++ abiText "C\r" ++ behind ∧
        HasReturn (abiText "C\r") := by
  let decl : Callable := ⟨⟨"f", ⟨[], []⟩, none, [⟨"(a,\rb)", "P", false, false, ⟨0, 0⟩⟩], none, none,
    false, false, false, some "C\r"⟩, "", [], none, ⟨0, 0⟩⟩
  let entry : Entry := ⟨.function, "", ⟨0, 0⟩, .callable decl⟩
  have read : Manifest.entries ⟨"manifest", [], none,
      [⟨"function", [("name", "f"), ("abi", "C\r")], none,
        [⟨"param", [("pattern", "(a,\rb)"), ("type", "P")], none, []⟩]⟩]⟩ = .ok [entry] :=
    eq_ok_of_toOption (by decide +kernel)
  have made : entry.generate.toOption.map (fun output => (output.items, output.diagnostics)) =
      some ([.function ⟨renderGuard Platform.all, decl, some decl.signature.forwardCall⟩],
        [⟨patternMessage "(a,\rb)", ⟨0, 0⟩⟩]) := by decide +kernel
  obtain ⟨outputs, source, -, assembled, each⟩ :=
    carriage_returns_of_entries (show "decls.xml" ≠ "" by decide) read
  obtain ⟨output, _, written, none, rfl⟩ := List.forall₂_cons_left_iff.mp each
  cases none
  rw [written.generate] at made
  obtain ⟨items, diagnostics⟩ := Prod.mk.inj (Option.some.inj made)
  have isFunction : .function ⟨renderGuard Platform.all, decl, some decl.signature.forwardCall⟩ ∈
      output.items := items ▸ List.mem_cons_self
  have isReported : ⟨patternMessage "(a,\rb)", ⟨0, 0⟩⟩ ∈ output.diagnostics :=
    diagnostics ▸ List.mem_cons_self
  obtain ⟨inFile, returns⟩ := written.reported _ isReported
  obtain ⟨⟨line, -, lineInFile, front, behind, split⟩, ofAbi⟩ :=
    written.abi _ "C\r" isFunction rfl (by rintro ⟨⟨⟩⟩)
  refine ⟨entry, output, source, read, written.generate, assembled, ⟨_, isReported, inFile, ?_⟩,
    line, front, behind, lineInFile, split, ofAbi.mpr (by decide)⟩
  have quotes : entry.declaration.Quotes ⟨patternMessage "(a,\rb)", ⟨0, 0⟩⟩ "(a,\rb)" :=
    @Declaration.Quotes.pattern decl ⟨"(a,\rb)", "P", false, false, ⟨0, 0⟩⟩ List.mem_cons_self
  have inPattern : HasReturn "(a,\rb)" := by decide
  exact returns.mpr ⟨"(a,\rb)", quotes, inPattern⟩

end SourceFile

end PlatformGate
