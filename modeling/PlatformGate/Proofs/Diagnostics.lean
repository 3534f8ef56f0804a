import PlatformGate.Proofs.Completeness
import PlatformGate.Proofs.Options.Refusal

/-! What is reported about an entry. A fault of the option text is all that is reported. Otherwise
the parts of the entry are looked at one after the other, and none keeps the next from being
reported on. -/

namespace PlatformGate

/-- Parameters that cannot be passed on in their order, and the variadic behind them. -/
def Callable.faults (decl : Callable) : List Diagnostic :=
  match decl.body with
  | some _ => []
  | none =>
    (decl.signature.params.filter fun param => ¬IsIdentifier param.pattern).map
      (fun param => ⟨patternMessage param.pattern, param.location⟩) ++
    match decl.signature.variadic with
    | some variadic => [⟨variadicMessage variadic, variadic.location⟩]
    | none => []

def ModuleDecl.objections (decl : ModuleDecl) : List String :=
  (if decl.isUnsafe then [unsafeModuleMessage] else []) ++
    if decl.inlineBody.isSome then [inlineModuleMessage] else []

def UseDecl.objections (decl : UseDecl) : List String :=
  (if decl.tree.leadingColons then [absoluteUseMessage] else []) ++
    if decl.tree.shape ≠ .name then [useShapeMessage decl.tree] else []

/-- What is wrong with the declaration of an entry. Of several objections to a module only the
first one counts. -/
def Declaration.faults : EntryKind → Declaration → List Diagnostic
  | .function, .callable decl => decl.faults
  | .module, .module decl => (decl.objections.take 1).map (⟨·, decl.location⟩)
  | .use, .use decl => (decl.objections.take 1).map (⟨·, decl.location⟩)
  | _, _ => []

theorem GuardedFn.reports_ofCallable {decl : Callable} (loaded : decl.signature.Loaded)
    (guard : String) : (ofCallable decl guard).2 = decl.faults := by
  have complex : (decl.signature.params.filter fun param => !param.isSimple) =
      decl.signature.params.filter fun param => ¬IsIdentifier param.pattern := by
    refine List.filter_congr fun param mem => ?_
    have same := isIdentifier_of_trim (loaded.params param mem).pattern
    rw [← Parameter.isSimple] at same
    simp [← same]
  unfold ofCallable Callable.faults
  cases decl.body with
  | some body => rfl
  | none =>
    rw [← complex]
    unfold Callable.variadicDiagnostics
    cases decl.signature.variadic <;> rfl

namespace Item

theorem reports_ofModule (decl : ModuleDecl) (platforms : List Platform) :
    (ofModule decl platforms).2 = (decl.objections.take 1).map (⟨·, decl.location⟩) := by
  unfold ofModule ModuleDecl.portableName ModuleDecl.objections
  split_ifs <;> rfl

theorem reports_ofUse (decl : UseDecl) (platforms : List Platform) :
    (ofUse decl platforms).2 = (decl.objections.take 1).map (⟨·, decl.location⟩) := by
  unfold ofUse UseDecl.portableName UseDecl.objections
  split_ifs <;> simp_all [ofPortable]

end Item

namespace Entry

theorem generateItems_reports {entry : Entry} (loaded : entry.Loaded) {traits : List String}
    {resolution : Resolution} {items : List Item} {diagnostics : List Diagnostic}
    (h : generateItems entry.kind entry.declaration traits resolution = .ok (items, diagnostics)) :
    diagnostics = entry.declaration.faults entry.kind := by
  obtain ⟨kind, text, location, declaration⟩ := entry
  obtain ⟨fits, -, known⟩ := loaded
  cases fits with
  | function decl =>
    have made := congrArg Prod.snd (Except.ok.inj h)
    exact made.symm.trans (GuardedFn.reports_ofCallable known.signature resolution.guard)
  | traitFunction =>
    cases h
    rfl
  | struct =>
    cases h
    rfl
  | module decl =>
    have made := congrArg Prod.snd (Except.ok.inj h)
    exact made.symm.trans (Item.reports_ofModule decl resolution.platforms)
  | use decl =>
    have made := congrArg Prod.snd (Except.ok.inj h)
    exact made.symm.trans (Item.reports_ofUse decl resolution.platforms)

open Manifest

/-- For an option text that cannot be read there is one diagnostic, placed in the text, and no
item. For any other, the lack of a platform and the faults of the declaration are reported, each at
its place. -/
theorem diagnostics_complete {root : Markup.Element} {loaded : List Entry} {entry : Entry}
    (h : entries root = .ok loaded) (mem : entry ∈ loaded) :
    ∃ output, entry.generate = .ok output ∧
      match entry.options with
      | .error diagnostic => output.items = [] ∧ output.diagnostics = [diagnostic] ∧
          ∃ k ≤ entry.optionsText.toList.length, diagnostic.location =
            entry.optionsLocation.advance entry.optionsText.toList k
      | .ok block => output.diagnostics =
          (if block.resolve.platforms = [] then [⟨Resolution.emptyMessage, entry.optionsLocation⟩]
            else []) ++ entry.declaration.faults entry.kind := by
  obtain ⟨output, generates⟩ := (wellFormed_of_entries h mem).exists_generates
  refine ⟨output, generates.generate, ?_⟩
  rcases generate_cases generates.generate with
    ⟨diagnostic, refused, rfl⟩ | ⟨block, items, diagnostics, parsed, made, rfl⟩
  · rw [refused]
    refine ⟨rfl, rfl, ?_⟩
    obtain ⟨fault, place, rest, -, rfl⟩ := OptionBlock.parse_eq_error.mp refused
    exact ⟨_, Nat.sub_le _ _, rfl⟩
  · rw [parsed]
    have place : block.location = entry.optionsLocation := by
      obtain ⟨clauses, -, rfl⟩ := OptionBlock.parse_eq_ok.mp parsed
      rfl
    have empty : block.resolve.diagnostic.toList = if block.resolve.platforms = []
        then [⟨Resolution.emptyMessage, entry.optionsLocation⟩] else [] := by
      rw [block.diagnostic_resolve, place]
      split_ifs <;> rfl
    rw [generateItems_reports (loaded_of_entries h mem) made]
    exact congrArg (· ++ entry.declaration.faults entry.kind) empty

theorem diagnostics_complete_of_cancelled_platforms :
    ∃ (function module : Entry) (wrapper pair : EntryOutput),
      entries ⟨"manifest", [], none,
        [⟨"function", [("name", "open"), ("options", "exclude(all)"), ("options-line", "2")], none,
          [⟨"param", [("pattern", "(x, y)"), ("type", "P"), ("line", "3")], none, []⟩,
            ⟨"param", [("name", "flag"), ("type", "bool")], none, []⟩,
            ⟨"variadic", [("line", "5")], none, []⟩]⟩,
          ⟨"mod", [("name", "net"), ("unsafe", "true"), ("options", "exclude(all, \nmacox)"),
            ("line", "7")], none, []⟩]⟩ = .ok [function, module] ∧
      function.generate = .ok wrapper ∧ module.generate = .ok pair ∧
      wrapper.diagnostics = [⟨Resolution.emptyMessage, ⟨2, 0⟩⟩, ⟨patternMessage "(x, y)", ⟨3, 0⟩⟩,
        ⟨variadicMessage ⟨none, ⟨5, 0⟩⟩, ⟨5, 0⟩⟩] ∧
      pair.items = [] ∧ pair.diagnostics = [⟨(Options.Fault.group).message, ⟨8, 0⟩⟩] := by
  have read : entries ⟨"manifest", [], none,
      [⟨"function", [("name", "open"), ("options", "exclude(all)"), ("options-line", "2")], none,
        [⟨"param", [("pattern", "(x, y)"), ("type", "P"), ("line", "3")], none, []⟩,
          ⟨"param", [("name", "flag"), ("type", "bool")], none, []⟩,
          ⟨"variadic", [("line", "5")], none, []⟩]⟩,
        ⟨"mod", [("name", "net"), ("unsafe", "true"), ("options", "exclude(all, \nmacox)"),
          ("line", "7")], none, []⟩]⟩ =
      .ok [⟨.function, "exclude(all)", ⟨2, 0⟩, .callable ⟨⟨"open", ⟨[], []⟩, none,
          [⟨"(x, y)", "P", false, false, ⟨3, 0⟩⟩, ⟨"flag", "bool", false, false, ⟨0, 0⟩⟩],
          some ⟨none, ⟨5, 0⟩⟩, none, false, false, false, none⟩, "", [], none, ⟨0, 0⟩⟩⟩,
        ⟨.module, "exclude(all, \nmacox)", ⟨7, 0⟩, .module ⟨"net", "", [], true, none, ⟨7, 0⟩⟩⟩] :=
    eq_ok_of_toOption (by decide +kernel)
  have parsed : OptionBlock.parse "exclude(all)" false ⟨2, 0⟩ = .ok ⟨[.all], [.all], [], ⟨2, 0⟩⟩ :=
    eq_ok_of_toOption (by decide +kernel)
  have refused : OptionBlock.parse "exclude(all, \nmacox)" false ⟨7, 0⟩ =
      .error ⟨(Options.Fault.group).message, ⟨8, 0⟩⟩ :=
    OptionBlock.parse_eq_error.mpr ⟨.group, "macox)".toList, "macox)".toList,
      by decide +kernel, by decide +kernel⟩
  obtain ⟨wrapper, generated, reported⟩ := diagnostics_complete read List.mem_cons_self
  obtain ⟨pair, generated', alone⟩ :=
    diagnostics_complete read (List.mem_cons_of_mem _ List.mem_cons_self)
  simp only [options] at reported alone
  rw [show (EntryKind.function == .struct) = false from rfl, parsed] at reported
  rw [show (EntryKind.module == .struct) = false from rfl, refused] at alone
  exact ⟨_, _, wrapper, pair, read, generated, generated',
    reported.trans (by decide +kernel), alone.1, alone.2.1⟩

end Entry

end PlatformGate
