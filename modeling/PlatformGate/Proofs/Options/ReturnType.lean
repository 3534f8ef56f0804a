import PlatformGate.Proofs.Options.Bracket

/-! Return types in option text. Skipping one follows the depth of all kinds of brackets together
and stops at the first character that leaves the depth undefined: a comma or a closing bracket
outside of all brackets. -/

namespace PlatformGate.Options

open Text

def nextDepth? (previous : Option Char) (depth : Nat) (c : Char) : Option Nat :=
  if opens c then some (depth + 1)
  else if closes c ∧ previous ≠ some '-' then
    match depth with
    | 0 => none
    | outer + 1 => some outer
  else if c = ',' ∧ depth = 0 then none
  else some depth

def depthBehind? (previous : Option Char) (depth : Nat) : List Char → Option Nat
  | [] => some depth
  | c :: rest => (nextDepth? previous depth c).bind fun next => depthBehind? (some c) next rest

structure ResultText (text : List Char) : Prop where
  starts : StartsSolid text
  ends : EndsSolid text
  balanced : depthBehind? none 0 text = some 0

/-- A comma ends what stands in front of it. A parenthesis does so too, but not directly behind a
minus sign, where it counts as the head of an arrow. -/
def Separates (before : List Char) (c : Char) : Prop :=
  c = ',' ∨ c = ')' ∧ before.getLast? ≠ some '-'

theorem Separates.isBlank {before : List Char} {c : Char} (h : Separates before c) :
    isBlank c = false := by
  rcases h with rfl | ⟨rfl, -⟩ <;> rfl

theorem nextDepth?_congr {p q : Option Char} (same : SameBehind p q) (depth : Nat) (c : Char) :
    nextDepth? p depth c = nextDepth? q depth c := by
  have behind : (p = some '-') = (q = some '-') := propext same
  simp only [nextDepth?, ne_eq, behind]

theorem depthBehind?_congr {p q : Option Char} (same : SameBehind p q) (depth : Nat)
    (s : List Char) : depthBehind? p depth s = depthBehind? q depth s := by
  cases s with
  | nil => rfl
  | cons c s => rw [depthBehind?, depthBehind?, nextDepth?_congr same]

theorem nextDepth?_of_isBlank {c : Char} (h : isBlank c = true) (p : Option Char) (depth : Nat) :
    nextDepth? p depth c = some depth := by
  have other : ∀ d, isBlank d = false → c ≠ d := fun d hd => ne_of_isBlank h hd
  simp [nextDepth?, opens, closes, other '(' rfl, other '[' rfl, other '<' rfl, other ')' rfl,
    other ']' rfl, other '>' rfl, other ',' rfl]

theorem nextDepth?_eq_none {p : Option Char} {depth : Nat} {c : Char} :
    nextDepth? p depth c = none ↔ depth = 0 ∧ (c = ',' ∨ closes c = true ∧ p ≠ some '-') := by
  have comma : opens ',' = false := rfl
  have apart : closes c = true → opens c = false := by
    intro h
    simp only [closes, Bool.or_eq_true, beq_iff_eq] at h
    rcases h with (rfl | rfl) | rfl <;> rfl
  unfold nextDepth?
  constructor
  · intro h
    split_ifs at h with opening closing end_
    · cases depth with
      | zero => exact ⟨rfl, Or.inr closing⟩
      | succ outer => cases h
    · exact ⟨end_.2, Or.inl end_.1⟩
  · rintro ⟨rfl, rfl | closing⟩
    · simp [comma]
    · simp [apart closing.1, closing]

theorem dropReturnType_cons (p : Option Char) (depth : Nat) (c : Char) (rest : List Char) :
    dropReturnType p depth (c :: rest) =
      match nextDepth? p depth c with
      | none => c :: rest
      | some next => dropReturnType (some c) next rest := by
  simp only [dropReturnType, nextDepth?]
  split_ifs
  · rfl
  · cases depth <;> rfl
  · rfl
  · rfl

theorem getLast?_cons_or (c : Char) (s : List Char) (p : Option Char) :
    (c :: s).getLast?.or p = s.getLast?.or (some c) := by
  rw [List.getLast?_cons]
  cases s.getLast? <;> rfl

theorem depthBehind?_append (p : Option Char) (depth : Nat) (s t : List Char) :
    depthBehind? p depth (s ++ t) =
      (depthBehind? p depth s).bind fun next => depthBehind? (s.getLast?.or p) next t := by
  induction s generalizing p depth with
  | nil => rfl
  | cons c s ih =>
    rw [List.cons_append, depthBehind?, depthBehind?, Option.bind_assoc, getLast?_cons_or]
    exact Option.bind_congr fun next _ => ih (some c) next

theorem depthBehind?_allBlank {w : List Char} (h : AllBlank w) (p : Option Char) (depth : Nat) :
    depthBehind? p depth w = some depth := by
  induction w generalizing p with
  | nil => rfl
  | cons c w ih =>
    rw [depthBehind?, nextDepth?_of_isBlank (h c List.mem_cons_self), Option.bind_some]
    exact ih (fun d hd => h d (List.mem_cons_of_mem c hd)) (some c)

theorem depthBehind?_append_blank {w : List Char} (h : AllBlank w) (p : Option Char) (depth : Nat)
    (s : List Char) : depthBehind? p depth (s ++ w) = depthBehind? p depth s := by
  rw [depthBehind?_append]
  simp [depthBehind?_allBlank h]

theorem depthBehind?_foldRuns {p q : Option Char} {inRun : Bool} (same : SameBehind p q)
    (behindRun : inRun = true → p ≠ some '-') (depth : Nat) (s : List Char) :
    depthBehind? q depth (foldRuns inRun s) = depthBehind? p depth s := by
  induction s generalizing p q depth inRun with
  | nil => rfl
  | cons c s ih =>
    rw [depthBehind?]
    cases blank : isBlank c with
    | true =>
      have notMinus := blank_ne_minus blank
      rw [nextDepth?_of_isBlank blank, Option.bind_some]
      cases inRun with
      | true =>
        have before : q ≠ some '-' := fun e => behindRun rfl (same.mpr e)
        simp only [foldRuns, blank, if_true]
        exact ih (iff_of_false notMinus before) (fun _ => notMinus) depth
      | false =>
        simp only [foldRuns, blank, if_true, Bool.false_eq_true, if_false]
        rw [depthBehind?, nextDepth?_of_isBlank rfl, Option.bind_some]
        exact ih (iff_of_false notMinus (by decide)) (fun _ => notMinus) depth
    | false =>
      simp only [foldRuns, blank, Bool.false_eq_true, if_false]
      rw [depthBehind?, ← nextDepth?_congr same]
      exact Option.bind_congr fun next _ => ih (p := some c) Iff.rfl (fun f => by cases f) next

theorem dropReturnType_append {p : Option Char} {depth next : Nat} {s : List Char}
    (h : depthBehind? p depth s = some next) (t : List Char) :
    dropReturnType p depth (s ++ t) = dropReturnType (s.getLast?.or p) next t := by
  induction s generalizing p depth with
  | nil =>
    cases h
    rfl
  | cons c s ih =>
    obtain ⟨inner, step, tail⟩ := Option.bind_eq_some_iff.mp h
    rw [List.cons_append, dropReturnType_cons, step, getLast?_cons_or]
    exact ih tail

theorem exists_of_dropReturnType (p : Option Char) (depth : Nat) (s : List Char) :
    ∃ r next, s = r ++ dropReturnType p depth s ∧ depthBehind? p depth r = some next ∧
      ∀ c, (dropReturnType p depth s).head? = some c →
        nextDepth? (r.getLast?.or p) next c = none := by
  induction s generalizing p depth with
  | nil => exact ⟨[], depth, rfl, rfl, fun c hc => by cases hc⟩
  | cons c s ih =>
    rw [dropReturnType_cons]
    cases step : nextDepth? p depth c with
    | none => exact ⟨[], depth, rfl, rfl, fun d hd => by cases hd; exact step⟩
    | some inner =>
      obtain ⟨r, next, split, behind, stop⟩ := ih (some c) inner
      refine ⟨c :: r, next, congrArg (c :: ·) split, ?_, ?_⟩
      · rw [depthBehind?, step, Option.bind_some, behind]
      · rw [getLast?_cons_or]
        exact stop

/-- Behind the head of an arrow and white space there is no minus sign. -/
theorem sameBehind_previousOfStart (text : List Char) :
    SameBehind (previousOfStart (some '>') text) none := by
  unfold previousOfStart
  split <;> exact iff_of_false (by decide) (by decide)

theorem skipReturnType_sound {text behind rest : List Char} {c : Char}
    (h : skipReturnType (some '>') text = .done () behind) (next : skipBlank behind = c :: rest)
    (hc : c = ',' ∨ c = ')') :
    behind = c :: rest ∧ ∃ w r w', AllBlank w ∧ ResultText r ∧ AllBlank w' ∧
      Separates (r ++ w') c ∧ text = w ++ (r ++ (w' ++ c :: rest)) := by
  obtain ⟨w, hw, split⟩ := exists_blank_append text
  obtain ⟨passed, depth, begins, balanced, stop⟩ :=
    exists_of_dropReturnType (previousOfStart (some '>') text) 0 (skipBlank text)
  simp only [skipReturnType] at h
  split at h
  next => cases h
  next long =>
    cases h
    generalize dropReturnType _ 0 (skipBlank text) = behind at *
    have nonempty : passed ≠ [] := by
      rintro rfl
      exact long (congrArg List.length begins).symm
    obtain ⟨e, tail, rfl⟩ : ∃ e tail, behind = e :: tail := by
      cases behind with
      | nil => cases next
      | cons e tail => exact ⟨e, tail, rfl⟩
    obtain ⟨rfl, ending⟩ := nextDepth?_eq_none.mp (stop e rfl)
    have solid : isBlank e = false := by
      rcases ending with rfl | ⟨closing, -⟩
      · rfl
      · simp only [closes, Bool.or_eq_true, beq_iff_eq] at closing
        rcases closing with (rfl | rfl) | rfl <;> rfl
    rw [skipBlank_cons solid] at next
    cases next
    have starts : StartsSolid passed := by
      have whole := startsSolid_skipBlank (t := text) (by simp [begins])
      rw [begins] at whole
      exact whole.of_append nonempty
    obtain ⟨r, w', startsR, endsR, hw', rfl⟩ := exists_append_blank starts
    rw [depthBehind?_append_blank hw', depthBehind?_congr (sameBehind_previousOfStart text)]
      at balanced
    refine ⟨rfl, w, r, w', hw, ⟨startsR, endsR, balanced⟩, hw', ?_, ?_⟩
    · -- Directly behind a minus sign the parenthesis would not have ended the type.
      refine hc.imp_right fun closing => ⟨closing, fun minus => ?_⟩
      rcases ending with rfl | ⟨-, other⟩
      · cases closing
      · rw [minus] at other
        exact other rfl
    · rw [split, begins, List.append_assoc]

theorem skipReturnType_complete {w r w' : List Char} {c : Char} (hw : AllBlank w)
    (hr : ResultText r) (hw' : AllBlank w') (ends : Separates (r ++ w') c) (rest : List Char) :
    skipReturnType (some '>') (w ++ (r ++ (w' ++ c :: rest))) = .done () (c :: rest) := by
  have start : skipBlank (w ++ (r ++ (w' ++ c :: rest))) = (r ++ w') ++ c :: rest := by
    rw [skipBlank_append_solid hw (hr.starts.append _), List.append_assoc]
  have balanced : ∀ p, SameBehind p none → depthBehind? p 0 (r ++ w') = some 0 := fun p same => by
    rw [depthBehind?_append_blank hw', depthBehind?_congr same, hr.balanced]
  have nonempty := (hr.starts.append w').ne_nil
  have stop : ∀ p, nextDepth? ((r ++ w').getLast?.or p) 0 c = none := fun p => by
    rw [nextDepth?_eq_none, List.getLast?_eq_some_getLast nonempty, Option.some_or,
      ← List.getLast?_eq_some_getLast nonempty]
    exact ⟨rfl, ends.imp_right fun ⟨closing, other⟩ => ⟨by rw [closing]; rfl, other⟩⟩
  have dropped : ∀ p, SameBehind p none →
      dropReturnType p 0 ((r ++ w') ++ c :: rest) = c :: rest := fun p same => by
    rw [dropReturnType_append (balanced p same), dropReturnType_cons, stop]
  have positive := List.length_pos_iff.mpr nonempty
  simp only [skipReturnType, start, dropped _ (sameBehind_previousOfStart _)]
  rw [if_neg]
  rw [List.length_append]
  omega

theorem ResultText.foldRuns {r : List Char} (h : ResultText r) :
    ResultText (foldRuns false r) where
  starts := h.starts.foldRuns
  ends := h.ends.foldRuns
  balanced := by
    rw [depthBehind?_foldRuns Iff.rfl (fun f => by cases f), h.balanced]

end PlatformGate.Options
