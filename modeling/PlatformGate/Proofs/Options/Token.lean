import PlatformGate.Options.Token
import PlatformGate.Proofs.Identifier
import PlatformGate.Proofs.Options.ReturnType

/-! Tokens in option text: what separates two items, and what reading a single character or a name
leaves of a text. -/

namespace PlatformGate.Options

open Text

theorem separates_append {s t : List Char} {c : Char} (nonempty : t ≠ []) :
    Separates (s ++ t) c ↔ Separates t c := by
  cases t with
  | nil => exact absurd rfl nonempty
  | cons d t => simp [Separates, List.getLast?_append, List.getLast?_cons]

theorem Separates.of_append {s t : List Char} {c : Char} (h : Separates (s ++ t) c) :
    Separates t c := by
  by_cases empty : t = []
  · rw [empty]
    exact h.imp_right fun ⟨closing, _⟩ => ⟨closing, by simp⟩
  · exact (separates_append empty).mp h

/-- Behind a sign of two characters only the last part counts. -/
theorem separates_joint {s w w' t v : List Char} {d e c : Char} (nonempty : t ++ v ≠ []) :
    Separates (s ++ (w ++ d :: e :: (w' ++ t)) ++ v) c ↔ Separates (t ++ v) c := by
  have parts : s ++ (w ++ d :: e :: (w' ++ t)) ++ v = s ++ (w ++ d :: e :: w') ++ (t ++ v) := by
    simp only [List.append_assoc, List.cons_append]
  rw [parts, separates_append nonempty]

theorem separates_of_not_mem {s : List Char} {c : Char} (hc : c = ',' ∨ c = ')') (h : '-' ∉ s) :
    Separates s c :=
  hc.imp_right fun closing => ⟨closing, fun e => h (List.mem_of_getLast? e)⟩

theorem separates_append_blank {s w : List Char} {c : Char} (hc : c = ',' ∨ c = ')')
    (hs : s.getLast? ≠ some '-') (hw : AllBlank w) : Separates (s ++ w) c := by
  by_cases empty : w = []
  · rw [empty, List.append_nil]
    exact hc.imp_right fun closing => ⟨closing, hs⟩
  · rw [separates_append empty]
    exact separates_of_not_mem hc (hw.not_mem rfl)

theorem Separates.cons {t : List Char} {c d : Char} (hd : d ≠ '-') (h : Separates t c) :
    Separates (d :: t) c := by
  refine h.imp_right fun ⟨closing, last⟩ => ⟨closing, ?_⟩
  rw [List.getLast?_cons]
  cases tail : t.getLast? with
  | none => simpa using hd
  | some e => rwa [tail] at last

theorem expect_eq_done {c : Char} {text rest : List Char} :
    expect [c] text = .done () rest ↔ skipBlank text = c :: rest := by
  cases start : skipBlank text with
  | nil => simp [expect, start]
  | cons d tail =>
    by_cases same : c = d
    · simp [expect, start, same]
    · simp only [expect, start, List.isPrefixOf, beq_eq_false_iff_ne.mpr same, Bool.false_and,
        Bool.false_eq_true, if_false, List.cons.injEq, Ne.symm same, false_and, reduceCtorEq]

theorem follows_iff {c : Char} {text : List Char} :
    follows [c] text = true ↔ ∃ rest, skipBlank text = c :: rest := by
  cases start : skipBlank text with
  | nil => simp [follows, start]
  | cons d tail =>
    simp only [follows, start, List.isPrefixOf, Bool.and_true, beq_iff_eq, List.cons.injEq]
    exact ⟨fun same => ⟨tail, same.symm, rfl⟩, fun ⟨_, same, _⟩ => same.symm⟩

theorem endsName_cons {c : Char} (hc : isNamePart c = false) (rest : List Char) :
    EndsName (c :: rest) := by
  intro d hd
  cases hd
  exact hc

theorem endsName_of_separates {s w : List Char} {c : Char} (hw : AllBlank w)
    (h : Separates s c) (rest : List Char) : EndsName (w ++ c :: rest) := by
  refine endsName_append_blank hw (endsName_cons ?_ rest)
  rcases h with rfl | ⟨rfl, -⟩ <;> rfl

theorem takeName_sound {what : String} {text name behind : List Char}
    (h : takeName what text = .done name behind) :
    ∃ w, AllBlank w ∧ isName name = true ∧ text = w ++ (name ++ behind) := by
  obtain ⟨w, hw, split⟩ := exists_blank_append text
  have whole := leadingName_append_drop (skipBlank text)
  simp only [takeName] at h
  split at h
  next => cases h
  next c tail found =>
    cases h
    have nonempty : leadingName (skipBlank text) ≠ [] := by simp [found]
    have isLeading := isName_leadingName nonempty
    rw [found] at whole isLeading
    exact ⟨w, hw, isLeading, split.trans (congrArg (w ++ ·) whole.symm)⟩

theorem takeName_complete (what : String) {w name behind : List Char} (hw : AllBlank w)
    (hn : isName name = true) (ends : EndsName behind) :
    takeName what (w ++ (name ++ behind)) = .done name behind := by
  have start := skipBlank_append_solid hw ((startsSolid_name hn).append behind)
  have leading := leadingName_append hn ends
  cases name with
  | nil => cases hn
  | cons c tail =>
    simp only [takeName, start, leading]
    simp

end PlatformGate.Options
