import PlatformGate.Options.Bracket
import PlatformGate.Proofs.Text.Blank

/-! Bracketed texts, and what skipping them depends on. A skipper takes the whole of such a text
and nothing behind it. Of white space it sees only that it is no minus sign, so it takes the text
with its runs folded as well. Both kinds of brackets are skipped in one way, by the depth behind
each character. -/

namespace PlatformGate.Options

open Text

/-- Two characters that a look back for a minus sign does not tell apart. -/
def SameBehind (p q : Option Char) : Prop := p = some '-' ↔ q = some '-'

theorem ne_of_isBlank {c d : Char} (hc : isBlank c = true) (hd : isBlank d = false) : c ≠ d := by
  rintro rfl
  rw [hc] at hd
  cases hd

theorem blank_ne_minus {c : Char} (h : isBlank c = true) : some c ≠ some '-' := fun e =>
  ne_of_isBlank h rfl (Option.some.inj e)

inductive BracketKind where
  | angle
  | parenthesis
  deriving DecidableEq, Repr

namespace BracketKind

def opening : BracketKind → Char
  | angle => '<'
  | parenthesis => '('

def closing : BracketKind → Char
  | angle => '>'
  | parenthesis => ')'

def hasArrows : BracketKind → Bool
  | angle => true
  | parenthesis => false

theorem isBlank_opening (kind : BracketKind) : isBlank kind.opening = false := by
  cases kind <;> rfl

theorem isBlank_closing (kind : BracketKind) : isBlank kind.closing = false := by
  cases kind <;> rfl

theorem closing_ne_minus (kind : BracketKind) : kind.closing ≠ '-' := by
  cases kind <;> decide

variable (kind : BracketKind)

def change (previous : Option Char) (c : Char) : Int :=
  if c = kind.opening then 1
  else if c = kind.closing ∧ ¬(kind.hasArrows ∧ previous = some '-') then -1
  else 0

def skip (previous : Option Char) (depth : Int) : List Char → Option (List Char)
  | [] => none
  | c :: rest =>
    if kind.change previous c = -1 ∧ depth = 1 then some rest
    else skip (some c) (depth + kind.change previous c) rest

/-- A text in brackets, which ends where as many have been closed as opened for the first time. -/
def Encloses (text : List Char) : Prop :=
  text.head? = some kind.opening ∧ kind.skip none 0 text = some []

theorem skipAngles_eq (previous : Option Char) (depth : Int) (text : List Char) :
    skipAngles previous depth text = angle.skip previous depth text := by
  induction text generalizing previous depth with
  | nil => rfl
  | cons c rest ih =>
    rw [skipAngles, skip]
    by_cases opening : c = '<'
    · have change : angle.change previous c = 1 := if_pos opening
      rw [if_pos opening, change, if_neg (by simp), ih]
    by_cases closing : c = '>' ∧ previous ≠ some '-'
    · have change : angle.change previous c = -1 := by
        simp [BracketKind.change, BracketKind.opening, BracketKind.closing, hasArrows, closing]
      simp only [if_neg opening, if_pos closing, change, true_and, ih]
      rfl
    · have change : angle.change previous c = 0 := by
        simp only [ne_eq] at closing
        simp [BracketKind.change, BracketKind.opening, BracketKind.closing, hasArrows, opening,
          closing]
      simp [opening, closing, change, ih]

theorem skipParentheses_eq (previous : Option Char) (depth : Int) (text : List Char) :
    skipParentheses depth text = parenthesis.skip previous depth text := by
  induction text generalizing previous depth with
  | nil => rfl
  | cons c rest ih =>
    rw [skipParentheses, skip, ih (some c), ih (some c), ih (some c)]
    by_cases opening : c = '('
    · have change : parenthesis.change previous c = 1 := if_pos opening
      rw [if_pos opening, change, if_neg (by simp)]
    by_cases closing : c = ')'
    · have change : parenthesis.change previous c = -1 := by
        simp [BracketKind.change, BracketKind.opening, BracketKind.closing, hasArrows, closing]
      simp only [if_neg opening, if_pos closing, change, true_and]
      rfl
    · have change : parenthesis.change previous c = 0 := by
        simp [BracketKind.change, BracketKind.opening, BracketKind.closing, opening, closing]
      simp [opening, closing, change]

variable {kind} {p q : Option Char} {depth : Int} {s rest : List Char}

theorem change_congr (same : SameBehind p q) (c : Char) : kind.change p c = kind.change q c := by
  have behind : (p = some '-') = (q = some '-') := propext same
  simp only [change, behind]

theorem change_of_isBlank {c : Char} (h : isBlank c = true) : kind.change p c = 0 := by
  rw [change, if_neg (ne_of_isBlank h kind.isBlank_opening),
    if_neg fun closing => ne_of_isBlank h kind.isBlank_closing closing.1]

theorem eq_closing_of_change {c : Char} (h : kind.change p c = -1) : c = kind.closing := by
  by_contra other
  by_cases opening : c = kind.opening <;> simp [change, opening, other] at h

theorem skip_append (h : kind.skip p depth s = some rest) (t : List Char) :
    kind.skip p depth (s ++ t) = some (rest ++ t) := by
  induction s generalizing p depth with
  | nil => cases h
  | cons c s ih =>
    rw [List.cons_append, skip] at *
    split at h
    next last =>
      cases h
      rw [if_pos last]
    next inner => rw [if_neg inner, ih h]

theorem exists_of_skip (h : kind.skip p depth s = some rest) :
    ∃ a, s = a ++ rest ∧ kind.skip p depth a = some [] := by
  induction s generalizing p depth with
  | nil => cases h
  | cons c s ih =>
    rw [skip] at h
    split at h
    next last =>
      cases h
      exact ⟨[c], rfl, by rw [skip, if_pos last]⟩
    next inner =>
      obtain ⟨a, rfl, ha⟩ := ih h
      exact ⟨c :: a, rfl, by rw [skip, if_neg inner, ha]⟩

theorem getLast?_of_skip (h : kind.skip p depth s = some []) :
    s.getLast? = some kind.closing := by
  induction s generalizing p depth with
  | nil => cases h
  | cons c s ih =>
    rw [skip] at h
    split at h
    next last =>
      cases h
      rw [eq_closing_of_change last.1]
      rfl
    next inner =>
      rw [List.getLast?_cons, ih h]
      rfl

/-- The fold may have written the run that stands in front of the text. -/
theorem skip_foldRuns {inRun : Bool} (same : SameBehind p q)
    (behindRun : inRun = true → p ≠ some '-') (h : kind.skip p depth s = some []) :
    kind.skip q depth (foldRuns inRun s) = some [] := by
  -- A look back asks for a minus sign only, which no white space is, folded or not.
  induction s generalizing p q depth inRun with
  | nil => cases h
  | cons c s ih =>
    rw [skip] at h
    cases blank : isBlank c with
    | true =>
      have notMinus := blank_ne_minus blank
      rw [change_of_isBlank blank, if_neg (by simp), Int.add_zero] at h
      cases inRun with
      | true =>
        have before : q ≠ some '-' := fun e => behindRun rfl (same.mpr e)
        simp only [foldRuns, blank, if_true]
        exact ih (iff_of_false notMinus before) (fun _ => notMinus) h
      | false =>
        simp only [foldRuns, blank, if_true, Bool.false_eq_true, if_false]
        rw [skip, change_of_isBlank rfl, if_neg (by simp), Int.add_zero]
        exact ih (iff_of_false notMinus (by decide)) (fun _ => notMinus) h
    | false =>
      simp only [foldRuns, blank, Bool.false_eq_true, if_false]
      rw [skip, ← change_congr same c]
      split at h
      next last =>
        cases h
        rw [if_pos last]
        rfl
      next inner =>
        rw [if_neg inner]
        exact ih (p := some c) Iff.rfl (fun f => by cases f) h

theorem Encloses.startsSolid (h : kind.Encloses s) : StartsSolid s :=
  ⟨kind.opening, h.1, kind.isBlank_opening⟩

theorem Encloses.endsSolid (h : kind.Encloses s) : EndsSolid s :=
  ⟨kind.closing, getLast?_of_skip h.2, kind.isBlank_closing⟩

theorem Encloses.foldRuns (h : kind.Encloses s) : kind.Encloses (foldRuns false s) := by
  refine ⟨?_, skip_foldRuns Iff.rfl (fun f => by cases f) h.2⟩
  rw [head?_foldRuns false h.startsSolid, h.1]

theorem exists_encloses {tail : List Char}
    (h : kind.skip none 0 (kind.opening :: rest) = some tail) :
    ∃ a, kind.Encloses a ∧ kind.opening :: rest = a ++ tail := by
  obtain ⟨a, split, skipped⟩ := exists_of_skip h
  refine ⟨a, ⟨?_, skipped⟩, split⟩
  cases a with
  | nil => cases skipped
  | cons c a => exact congrArg some (List.cons.inj split).1.symm

end BracketKind

end PlatformGate.Options
