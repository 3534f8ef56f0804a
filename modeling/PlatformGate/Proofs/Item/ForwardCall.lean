import PlatformGate.Proofs.Gating

/-! Wrappers that forward to the platform's own implementation. The call is written from left to
right as the signature asks for it. A parameter is either passed on or reported, so no argument is
lost in silence. -/

namespace PlatformGate

inductive Divided : List Parameter → List String → List Diagnostic → Prop
  | nil : Divided [] [] []
  | passed {param : Parameter} {params : List Parameter} {args : List String}
      {reported : List Diagnostic} (simple : param.isSimple = true)
      (later : Divided params args reported) :
      Divided (param :: params) (param.pattern :: args) reported
  | reported {param : Parameter} {params : List Parameter} {args : List String}
      {reported : List Diagnostic} (complex : ¬param.isSimple = true)
      (later : Divided params args reported) :
      Divided (param :: params) args (⟨patternMessage param.pattern, param.location⟩ :: reported)

theorem Divided.eq_map_of_unreported {params : List Parameter} {args : List String}
    (divided : Divided params args []) : args = params.map (·.pattern) := by
  generalize none : ([] : List Diagnostic) = reported at divided
  induction divided with
  | nil => rfl
  | passed _ _ ih => rw [List.map_cons, ih none]
  | reported => cases none

namespace Signature

def argumentNames (signature : Signature) : List String :=
  (signature.generics.params.filter fun param => param.kind = .type ∨ param.kind = .const).map
    (·.name)

def receiverArg (signature : Signature) : List String :=
  if signature.receiver.isSome then ["self"] else []

def callText (signature : Signature) (args : List String) : String :=
  (if signature.isUnsafe then "unsafe \x7b " else "") ++
    "Self::" ++ signature.name ++ "_impl" ++
    (if signature.argumentNames = [] then ""
      else "::<" ++ ", ".intercalate signature.argumentNames ++ ">") ++
    "(" ++ ", ".intercalate (signature.receiverArg ++ args) ++ ")" ++
    (if signature.isAsync then ".await" else "") ++
    (if signature.output = none then ";" else "") ++
    (if signature.isUnsafe then " \x7d" else "")

theorem argumentNames_eq (signature : Signature) :
    signature.argumentNames = signature.generics.forwardedArgs := by
  have same : ∀ param : GenericParam,
      decide (param.kind = .type ∨ param.kind = .const) = !param.isLifetime := by
    intro param
    cases kind : param.kind <;> simp [GenericParam.isLifetime, kind]
  simp only [argumentNames, Generics.forwardedArgs, same]

theorem exists_divided (signature : Signature) :
    ∃ args, signature.forwardedArgs = signature.receiverArg ++ args ∧
      Divided signature.params args signature.patternDiagnostics := by
  refine ⟨(signature.params.filter (·.isSimple)).map (·.pattern), ?_, ?_⟩
  · unfold forwardedArgs receiverArg
    cases signature.receiver <;> rfl
  · unfold patternDiagnostics
    induction signature.params with
    | nil => exact .nil
    | cons param params ih =>
      by_cases simple : param.isSimple = true
      · rw [List.filter_cons_of_pos simple, List.filter_cons_of_neg (by simp [simple])]
        exact .passed simple ih
      · rw [List.filter_cons_of_neg simple, List.filter_cons_of_pos (by simp [simple])]
        exact .reported simple ih

theorem render_forwardCall {signature : Signature} {args : List String}
    (passed : signature.forwardedArgs = signature.receiverArg ++ args) :
    signature.forwardCall.render = signature.callText args := by
  have turbofish : signature.forwardCall.turbofish =
      if signature.argumentNames = [] then ""
        else "::<" ++ ", ".intercalate signature.argumentNames ++ ">" := by
    rw [ForwardCall.turbofish, forwardCall, ← argumentNames_eq]
    by_cases none : signature.argumentNames = []
    · simp [none]
    · simp [none, angleList, ← String.append_assoc]
  unfold ForwardCall.render ForwardCall.expression callText
  rw [turbofish]
  simp only [forwardCall, passed, implName, implSuffix, Option.isNone_iff_eq_none]
  split_ifs <;> simp only [String.append_assoc, String.empty_append, String.append_empty]

end Signature

namespace GuardedFn

/-- A function with a body is kept. A signature without a variadic becomes a wrapper around one
call, which has every argument in its place unless a parameter is reported. -/
theorem wrapper_forwards_call (decl : Callable) (guard : String) :
    match decl.body with
    | some _ => ofCallable decl guard = (some ⟨guard, decl, none⟩, [])
    | none => ∃ args reported, Divided decl.signature.params args reported ∧
      match decl.signature.variadic with
      | some variadic => ofCallable decl guard =
          (none, reported ++ [⟨variadicMessage variadic, variadic.location⟩])
      | none => ∃ call, ofCallable decl guard = (some ⟨guard, decl, some call⟩, reported) ∧
          call.args = decl.signature.receiverArg ++ args ∧
          lines ⟨guard, decl, some call⟩ = renderCfg guard :: decl.attributes ++
            [decl.signature.render decl.visibility ++ " \x7b",
              "    " ++ decl.signature.callText args, "\x7d"] ∧
          (reported = [] → args = decl.signature.params.map (·.pattern)) := by
  unfold ofCallable
  cases decl.body with
  | some body => rfl
  | none =>
    obtain ⟨args, passed, divided⟩ := decl.signature.exists_divided
    refine ⟨args, _, divided, ?_⟩
    unfold Callable.variadicDiagnostics
    cases decl.signature.variadic with
    | some variadic => rfl
    | none =>
      refine ⟨decl.signature.forwardCall, ?_, passed, ?_, fun unreported => ?_⟩
      · simp
      · rw [← Signature.render_forwardCall passed]
        rfl
      · rw [unreported] at divided
        exact divided.eq_map_of_unreported

theorem wrapper_forwards_call_of_generic_method :
    ∃ item, ofCallable ⟨⟨"send",
        ⟨[⟨.lifetime, "'a", [], none, none⟩, ⟨.type, "T", ["Copy"], none, none⟩,
          ⟨.const, "N", [], some "usize", none⟩], []⟩,
        some ⟨true, false, none, none⟩,
        [⟨"frame", "&'a T", false, false, ⟨3, 30⟩⟩, ⟨"count", "u8", true, false, ⟨3, 44⟩⟩],
        none, none, true, true, false, none⟩, "pub", [], none, ⟨3, 4⟩⟩ "unix" = (some item, []) ∧
      item.lines = ["#[cfg(unix)]",
        "pub async unsafe fn send<'a, T: Copy, const N: usize>(&self, frame: &'a T, " ++
          "mut count: u8) \x7b",
        "    unsafe \x7b Self::send_impl::<T, N>(self, frame, count).await; \x7d", "\x7d"] := by
  obtain ⟨args, reported, -, call, made, -, lines, all⟩ := wrapper_forwards_call ⟨⟨"send",
    ⟨[⟨.lifetime, "'a", [], none, none⟩, ⟨.type, "T", ["Copy"], none, none⟩,
      ⟨.const, "N", [], some "usize", none⟩], []⟩,
    some ⟨true, false, none, none⟩,
    [⟨"frame", "&'a T", false, false, ⟨3, 30⟩⟩, ⟨"count", "u8", true, false, ⟨3, 44⟩⟩],
    none, none, true, true, false, none⟩, "pub", [], none, ⟨3, 4⟩⟩ "unix"
  have unreported : reported = [] := (congrArg Prod.snd made).symm.trans (by decide +kernel)
  rw [unreported] at made
  refine ⟨_, made, lines.trans ?_⟩
  rw [all unreported]
  decide +kernel

end GuardedFn

end PlatformGate
