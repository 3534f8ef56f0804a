import PlatformGate.Proofs.Gating
import PlatformGate.Proofs.Manifest.Reading
import PlatformGate.Proofs.Text.Lines

/-! Functions with a body, as they are written: the declaration below its guard and its attributes.
Every line end in the declaration becomes a line feed, so a body is written as it was read only if
no other line ends are in the way. -/

namespace PlatformGate

open Text

def Callable.text (decl : Callable) (body : String) : String :=
  decl.signature.render decl.visibility ++ " " ++ body

namespace GuardedFn

def above (guard : String) (decl : Callable) : List String := renderCfg guard :: decl.attributes

def written (guard : String) (decl : Callable) (text : String) : String :=
  "\n".intercalate (above guard decl) ++ "\n" ++ text

theorem intercalate_above_append (guard : String) (decl : Callable) {below : List String}
    (nonempty : below ≠ []) :
    "\n".intercalate (above guard decl ++ below) = written guard decl ("\n".intercalate below) :=
  String.intercalate_append_of_ne_nil (List.cons_ne_nil _ _) nonempty

theorem intercalate_lines_of_body {decl : Callable} {body : String} (held : decl.body = some body)
    (solid : EndsSolid body.toList) (guard : String) :
    "\n".intercalate (lines ⟨guard, decl, none⟩) =
      written guard decl (String.ofList (feedLines (decl.text body).toList)) := by
  have ends : EndsSolid (decl.text body).toList := by
    rw [Callable.text, String.toList_append]
    exact solid.append _
  have nonempty : splitLines (decl.text body) ≠ [] := fun none => by
    obtain ⟨c, hc, -⟩ := ends
    refine lines_ne_nil ?_ (List.map_eq_nil_iff.mp none)
    exact List.ne_nil_of_mem (List.mem_of_getLast? hc)
  have below : GuardedFn.body ⟨guard, decl, none⟩ = splitLines (decl.text body) := by
    simp only [GuardedFn.body, held, Callable.text]
  rw [lines, below, ← above, intercalate_above_append guard decl nonempty,
    intercalate_splitLines ends.endsWithinLine]

end GuardedFn

namespace Entry

open Manifest

/-- A function of a manifest that has a body is written with line feeds for all of its line ends,
and otherwise as it was read. -/
theorem written_of_body {root : Markup.Element} {loaded : List Entry} {entry : Entry}
    {decl : Callable} {body : String} (h : entries root = .ok loaded) (mem : entry ∈ loaded)
    (callable : entry.declaration = .callable decl) (held : decl.body = some body)
    (guard : String) :
    body ≠ "" ∧ trim body = body ∧
      ∃ item : GuardedFn,
        (GuardedFn.ofCallable decl guard).1 = some item ∧
        GuardedFn.ofTraitMethod decl guard = item ∧
        "\n".intercalate item.lines =
          GuardedFn.written guard decl (String.ofList (feedLines (decl.text body).toList)) ∧
        ("\n".intercalate item.lines = GuardedFn.written guard decl (decl.text body) ↔
          ∀ c ∈ (decl.text body).toList, isLineEnd c = true → c = '\n') := by
  have wellFormed := (wellFormed_of_entries h mem).declaration
  rw [callable] at wellFormed
  obtain ⟨nonempty, whole⟩ := wellFormed.body body held
  have trimmed : trimmed body.toList = body.toList := by
    rw [← String.toList_ofList (l := Text.trimmed body.toList), ← trim, whole]
  have solid : EndsSolid body.toList := by
    have filled : Text.trimmed body.toList ≠ [] := by simpa [trimmed] using nonempty
    exact trimmed ▸ (solid_trimmed filled).2
  -- The body does not end in a line end, so dividing the text into lines loses none.
  have joined := GuardedFn.intercalate_lines_of_body held solid guard
  refine ⟨nonempty, whole, ⟨guard, decl, none⟩, ?_, rfl, joined, ?_⟩
  · simp [GuardedFn.ofCallable_eq, held]
  · rw [joined, GuardedFn.written, GuardedFn.written, String.append_right_inj, ← String.toList_inj,
      String.toList_ofList, feedLines_eq_self_iff]

/-- A line separator inside a string literal of the body comes out as a line feed. -/
theorem written_of_body_with_line_separator :
    ∃ (entry : Entry) (decl : Callable) (item : GuardedFn),
      entries ⟨"manifest", [], none, [⟨"function", [("name", "mark")], none,
        [⟨"body", [], some "\x7b \"a\u2028b\" \x7d", []⟩]⟩]⟩ = .ok [entry] ∧
      entry.declaration = .callable decl ∧ decl.body = some "\x7b \"a\u2028b\" \x7d" ∧
      (GuardedFn.ofCallable decl "any()").1 = some item ∧
      "\n".intercalate item.lines = "#[cfg(any())]\nfn mark() \x7b \"a\nb\" \x7d" ∧
      "\n".intercalate item.lines ≠ "#[cfg(any())]\nfn mark() \x7b \"a\u2028b\" \x7d" := by
  have read : entries ⟨"manifest", [], none, [⟨"function", [("name", "mark")], none,
      [⟨"body", [], some "\x7b \"a\u2028b\" \x7d", []⟩]⟩]⟩ =
      .ok [⟨.function, "", ⟨0, 0⟩, .callable ⟨⟨"mark", ⟨[], []⟩, none, [], none, none, false, false,
        false, none⟩, "", [], some "\x7b \"a\u2028b\" \x7d", ⟨0, 0⟩⟩⟩] :=
    eq_ok_of_toOption (by decide +kernel)
  obtain ⟨-, -, item, function, -, joined, -⟩ :=
    written_of_body read (List.mem_singleton_self _) rfl rfl "any()"
  refine ⟨_, _, item, read, rfl, rfl, function, ?_, ?_⟩
  · rw [joined]
    decide +kernel
  · rw [joined]
    decide +kernel

end Entry

end PlatformGate
