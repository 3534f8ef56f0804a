import PlatformGate.Proofs.Item.ForwardCall
import PlatformGate.Proofs.Manifest.Reading

/-! The arguments of a forwarding call. A pattern that is accepted as an identifier is passed on,
and every other one is reported. The accepted patterns are the identifiers, and besides them what is
spelled like one and has a line feed behind it, the lone underscore included. Patterns from a
manifest are trimmed, so none of them ends in a line feed. -/

namespace PlatformGate

open Manifest Text

theorem Divided.mem_iff {params : List Parameter} {args : List String}
    {reported : List Diagnostic} (divided : Divided params args reported) {arg : String} :
    arg ∈ args ↔ ∃ param ∈ params, param.isSimple = true ∧ param.pattern = arg := by
  induction divided with
  | nil => simp
  | passed simple later ih =>
    rw [List.mem_cons, ih, List.exists_mem_cons_iff, and_iff_right simple, eq_comm]
  | reported complex later ih =>
    rw [ih, List.exists_mem_cons_iff, or_iff_right fun passed => complex passed.1]

structure IsPlainArgument (arg : String) : Prop where
  named : arg ≠ "_"
  spelling : Spelling arg.toList
  solid : ∀ c ∈ arg.toList, isBlank c = false

theorem isPlainArgument_iff {arg : String} : IsPlainArgument arg ↔ IsIdentifier arg := by
  rw [isIdentifier_iff_spelling]
  exact ⟨fun plain => ⟨plain.named, plain.spelling⟩,
    fun identifier => ⟨identifier.1, identifier.2, identifier.2.solid⟩⟩

theorem SpelledWithLineFeed.not_isPlainArgument {arg : String} (spelled : SpelledWithLineFeed arg) :
    ¬IsPlainArgument arg := fun plain =>
  absurd (plain.solid '\n' spelled.lineFeed_mem) (by decide)

theorem Parameter.Loaded.not_spelledWithLineFeed {param : Parameter} (loaded : param.Loaded) :
    ¬SpelledWithLineFeed param.pattern := fun spelled =>
  spelled.not_isPlainArgument <| isPlainArgument_iff.mpr <|
    (isIdentifier_of_trim loaded.pattern).mp (isIdentifier_iff.mpr (.inr spelled))

namespace Signature

structure Passes (signature : Signature) (args : List String) : Prop where
  call : signature.forwardCall.args = signature.receiverArg ++ args
  divided : Divided signature.params args signature.patternDiagnostics

theorem Passes.plain_or_spelled {signature : Signature} {args : List String}
    (passes : signature.Passes args) :
    ∀ arg ∈ args, IsPlainArgument arg ∨ SpelledWithLineFeed arg := by
  intro arg mem
  obtain ⟨param, -, simple, rfl⟩ := passes.divided.mem_iff.mp mem
  rw [isPlainArgument_iff]
  exact isIdentifier_iff.mp simple

theorem Passes.forall_plain_iff {signature : Signature} {args : List String}
    (passes : signature.Passes args) :
    (∀ arg ∈ args, IsPlainArgument arg) ↔
      ∀ param ∈ signature.params, ¬SpelledWithLineFeed param.pattern := by
  constructor
  · intro plain param declared spelled
    have passed : param.pattern ∈ args :=
      passes.divided.mem_iff.mpr ⟨param, declared, isIdentifier_iff.mpr (.inr spelled), rfl⟩
    exact spelled.not_isPlainArgument (plain param.pattern passed)
  · intro unspelled arg mem
    obtain ⟨param, declared, -, rfl⟩ := passes.divided.mem_iff.mp mem
    exact (passes.plain_or_spelled _ mem).resolve_right (unspelled param declared)

/-- What is passed on is an identifier, or is spelled like one, maybe the lone underscore, with a
line feed behind it. All arguments are identifiers exactly if no pattern ends in this way, as none
does in a manifest. -/
theorem forwarded_up_to_line_feed (signature : Signature) :
    (∀ text : String, isIdentifier text = true ↔
      text ≠ "_" ∧ Spelling text.toList ∨ SpelledWithLineFeed text) ∧
    (∃ args, signature.Passes args ∧
      (∀ arg ∈ args, IsPlainArgument arg ∨ SpelledWithLineFeed arg) ∧
      ((∀ arg ∈ args, IsPlainArgument arg) ↔
        ∀ param ∈ signature.params, ¬SpelledWithLineFeed param.pattern)) ∧
    ∀ (root : Markup.Element) (loaded : List Entry) (entry : Entry) (decl : Callable),
      entries root = .ok loaded → entry ∈ loaded → entry.declaration = .callable decl →
      decl.signature = signature →
      ∀ param ∈ signature.params, ¬SpelledWithLineFeed param.pattern := by
  obtain ⟨args, call, divided⟩ := signature.exists_divided
  have passes : signature.Passes args := ⟨call, divided⟩
  refine ⟨fun text => ?_, ⟨args, passes, passes.plain_or_spelled, passes.forall_plain_iff⟩, ?_⟩
  · rw [isIdentifier_iff, isIdentifier_iff_spelling]
  · rintro root loaded entry decl read mem declares rfl param declared
    have known := (loaded_of_entries read mem).declaration
    rw [declares] at known
    exact (known.signature.params param declared).not_spelledWithLineFeed

/-- The first signature has a wildcard that is passed on. In the second one, from a manifest, the
line feed around the pattern has been left out. -/
theorem forwarded_up_to_line_feed_of_wildcard :
    let written : Signature := ⟨"seek", ⟨[], []⟩, some ⟨true, false, none, none⟩,
      [⟨"r#in", "u8", false, false, ⟨1, 4⟩⟩, ⟨"(x, y)", "P", false, false, ⟨1, 9⟩⟩,
        ⟨"_\n", "u8", false, false, ⟨1, 15⟩⟩], none, none, false, false, false, none⟩
    let loaded : Signature := ⟨"seek", ⟨[], []⟩, none, [⟨"offset", "u8", false, false, ⟨0, 0⟩⟩],
      none, none, false, false, false, none⟩
    written.Passes ["r#in", "_\n"] ∧ ¬IsPlainArgument "_\n" ∧
    entries ⟨"manifest", [], none, [⟨"function", [("name", "seek")], none,
      [⟨"param", [("name", "offset\n"), ("type", "u8")], none, []⟩]⟩]⟩ =
      .ok [⟨.function, "", ⟨0, 0⟩, .callable ⟨loaded, "", [], none, ⟨0, 0⟩⟩⟩] ∧
    loaded.Passes ["offset"] ∧ IsPlainArgument "offset" := by
  intro written loaded
  obtain ⟨-, ⟨args, passes, -, -⟩, -⟩ := forwarded_up_to_line_feed written
  have call : "self" :: args = ["self", "r#in", "_\n"] :=
    passes.call.symm.trans (by decide +kernel)
  obtain rfl : args = ["r#in", "_\n"] := (List.cons.inj call).2
  have underscore : SpelledWithLineFeed "_\n" := ⟨"_", spelling_iff.mpr (by decide), rfl⟩
  have read : entries ⟨"manifest", [], none, [⟨"function", [("name", "seek")], none,
      [⟨"param", [("name", "offset\n"), ("type", "u8")], none, []⟩]⟩]⟩ =
      .ok [⟨.function, "", ⟨0, 0⟩, .callable ⟨loaded, "", [], none, ⟨0, 0⟩⟩⟩] :=
    eq_ok_of_toOption (by decide +kernel)
  obtain ⟨-, ⟨args, fits, -, named⟩, fromManifest⟩ := forwarded_up_to_line_feed loaded
  obtain rfl : args = ["offset"] := fits.call.symm.trans (by decide +kernel)
  have unspelled := fromManifest _ _ _ _ read (List.mem_singleton_self _) rfl rfl
  exact ⟨passes, underscore.not_isPlainArgument, read, fits,
    named.mpr unspelled "offset" (List.mem_singleton_self _)⟩

end Signature

end PlatformGate
