import PlatformGate.Options.Bracket

/-!
Trait paths in option text: names joined by `::`, each with arguments between angle brackets, or
at the end the form `(A, B) -> R` of the function traits. The text of the arguments is skipped and
not analysed; a path is kept as written, with each run of white space made one space.
-/

namespace PlatformGate.Options

open Text

/-- Skips the arguments behind a name. The value tells whether the path may go on: the
parenthesized form ends it. -/
def skipArguments (text : List Char) : Outcome Bool :=
  match skipBlank text with
  | '<' :: rest =>
    match skipAngles none 0 ('<' :: rest) with
    | some behind => .done true behind
    | none => .failed .unclosedAngle ('<' :: rest) []
  | '(' :: rest =>
    match skipParentheses 0 ('(' :: rest) with
    | none => .failed .unclosedParenthesis ('(' :: rest) []
    | some behind =>
      match skipBlank behind with
      | '-' :: '>' :: result => (skipReturnType (some '>') result).map fun _ => false
      | other => .done false other
  | other => .done true other

theorem skipArguments_length {text rest : List Char} {more : Bool}
    (h : skipArguments text = .done more rest) : rest.length ≤ text.length := by
  have bound := skipBlank_length_le text
  unfold skipArguments at h
  split at h
  next tail start =>
    split at h
    next behind found =>
      cases h
      have := skipAngles_length found
      rw [start] at bound
      omega
    next => cases h
  next tail start =>
    rw [start] at bound
    split at h
    next => cases h
    next behind found =>
      have inner := skipParentheses_length found
      have after := skipBlank_length_le behind
      split at h
      next result arrow =>
        rw [arrow] at after
        simp only [Outcome.map_eq_done] at h
        obtain ⟨_, skipped, -⟩ := h
        have := skipReturnType_length skipped
        simp only [List.length_cons] at after
        omega
      next =>
        cases h
        omega
  next => cases h; exact bound

def skipSegments (text : List Char) : Outcome Unit :=
  match _ : takeName "trait path" text with
  | .failed fault place rest => .failed fault place rest
  | .done _ behindName =>
    match _ : skipArguments behindName with
    | .failed fault place rest => .failed fault place rest
    | .done false rest => .done () rest
    | .done true behind =>
      match _ : skipBlank behind with
      | ':' :: ':' :: rest => skipSegments rest
      | rest => .done () rest
termination_by text.length
decreasing_by
  have named := takeName_length ‹_›
  have skipped := skipArguments_length ‹_›
  have joined := skipBlank_length_le behind
  simp only [*, List.length_cons] at joined
  omega

theorem skipSegments_length {text rest : List Char}
    (h : skipSegments text = .done () rest) : rest.length < text.length := by
  fun_induction skipSegments text with
  | case1 => cases h
  | case2 => cases h
  | case3 text name behindName named stop skipped =>
    cases h
    exact Nat.lt_of_le_of_lt (skipArguments_length skipped) (takeName_length named)
  | case4 text name behindName named behind skipped tail joined ih =>
    have h₁ := takeName_length named
    have h₂ := skipArguments_length skipped
    have h₃ := skipBlank_length_le behind
    rw [joined] at h₃
    simp only [List.length_cons] at h₃
    have := ih h
    omega
  | case5 text name behindName named behind skipped =>
    cases h
    have h₁ := takeName_length named
    have h₂ := skipArguments_length skipped
    have h₃ := skipBlank_length_le behind
    omega

def traitPath (text : List Char) : Outcome String :=
  let start := skipBlank text
  let names := match start with
    | ':' :: ':' :: rest => rest
    | other => other
  match skipSegments names with
  | .failed fault place rest => .failed fault place rest
  | .done () rest =>
    .done (String.ofList (squeeze (start.take (start.length - rest.length)))) rest

theorem traitPath_length {text rest : List Char} {path : String}
    (h : traitPath text = .done path rest) : rest.length < text.length := by
  have bound := skipBlank_length_le text
  simp only [traitPath] at h
  split at h
  next => cases h
  next stop skipped =>
    cases h
    have inner := skipSegments_length skipped
    split at inner
    next tail start =>
      rw [start] at bound
      simp only [List.length_cons] at bound
      omega
    next => omega

end PlatformGate.Options
