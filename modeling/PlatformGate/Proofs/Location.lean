import Mathlib.Data.Int.Order.Basic
import Mathlib.Data.List.TakeWhile
import Mathlib.Data.Prod.Lex
import Mathlib.Order.Monotone.Basic
import PlatformGate.Location

/-! Places in a text. A location in a text is that of the same text at the beginning of a file,
taken relative to where the text starts. It counts the characters in front of it one after the
other, so it moves on in reading order with each of them, and no two places in a text share one. -/

namespace PlatformGate.Location

/-- The location of a place in a text that starts at `start`, where `place` is counted from the
beginning of the text. Only on the first line of the text is there something in front of it. -/
def relativeTo (start place : Location) : Location :=
  if place.line = 0 then ⟨start.line, start.column + place.column⟩
  else ⟨start.line + place.line, place.column⟩

theorem advance_eq_relativeTo (start : Location) (text : List Char) (index : Nat) :
    start.advance text index = start.relativeTo (unstated.advance text index) := by
  by_cases oneLine : (text.take index).count '\n' = 0
  · simp [advance, relativeTo, unstated, oneLine]
  · simp [advance, relativeTo, unstated, oneLine]

theorem line_advance_unstated (text : List Char) (index : Nat) :
    (unstated.advance text index).line = (text.take index).count '\n' := by
  by_cases oneLine : (text.take index).count '\n' = 0
  · simp [advance, unstated, oneLine]
  · simp [advance, unstated, oneLine]

def behind (place : Location) (c : Char) : Location :=
  if c = '\n' then ⟨place.line + 1, 0⟩ else ⟨place.line, place.column + 1⟩

theorem lastLine_cons (c : Char) (text : List Char) :
    lastLine (c :: text) =
      if '\n' ∈ text then lastLine text else if c = '\n' then text else c :: text := by
  have whole : text.reverse.takeWhile (· != '\n') = text.reverse ↔ '\n' ∉ text := by
    simp [List.takeWhile_eq_self_iff, List.forall_mem_ne']
  unfold lastLine
  rw [List.reverse_cons, List.takeWhile_append]
  by_cases feed : '\n' ∈ text
  · have short : (text.reverse.takeWhile (· != '\n')).length ≠ text.reverse.length := fun full =>
      whole.mp ((List.takeWhile_prefix (· != '\n')).eq_of_length full) feed
    rw [if_neg short, if_pos feed]
  · by_cases ends : c = '\n' <;> simp [whole.mpr feed, feed, ends]

theorem advance_nil (start : Location) (index : Nat) :
    start.advance [] index = ⟨start.line, start.column + index⟩ := by
  simp [advance]

theorem advance_cons (start : Location) (c : Char) (text : List Char) (index : Nat) :
    start.advance (c :: text) (index + 1) = (start.behind c).advance text index := by
  have fits := List.length_take_le index text
  simp only [advance, behind, List.take_succ_cons, List.length_cons, Nat.add_sub_add_right,
    lastLine_cons]
  generalize text.take index = before at fits ⊢
  -- The last line feed stands in the rest, or it is the first character, or there is none.
  by_cases feed : '\n' ∈ before
  · have counted : before.count '\n' ≠ 0 := (List.count_pos_iff.mpr feed).ne'
    by_cases ends : c = '\n'
    · subst ends
      simp only [List.count_cons_self, if_pos feed, if_neg counted, if_neg (Nat.succ_ne_zero _),
        if_true, Location.mk.injEq, and_true]
      omega
    · simp only [List.count_cons_of_ne ends, if_pos feed, if_neg counted, if_neg ends]
  · have counted : before.count '\n' = 0 := List.count_eq_zero.mpr feed
    by_cases ends : c = '\n'
    · subst ends
      simp only [List.count_cons_self, counted, if_neg feed, if_neg (Nat.succ_ne_zero 0), if_true,
        Location.mk.injEq]
      omega
    · simp only [List.count_cons_of_ne ends, counted, if_true, if_neg ends, Location.mk.injEq,
        true_and]
      omega

/-- The closed form counts lines and columns, which comes to the same as one character after the
other. -/
theorem advance_eq_foldl (start : Location) {text : List Char} {index : Nat}
    (within : index ≤ text.length) :
    start.advance text index = (text.take index).foldl behind start := by
  induction text generalizing start index with
  | nil =>
    rw [Nat.le_zero.mp within, advance_zero]
    rfl
  | cons c text ih =>
    cases index with
    | zero =>
      rw [advance_zero]
      rfl
    | succ index =>
      rw [advance_cons, ih _ (Nat.succ_le_succ_iff.mp within)]
      rfl

theorem advance_advance (start : Location) (text : List Char) (i j : Nat) :
    (start.advance text i).advance (text.drop i) j = start.advance text (i + j) := by
  induction i generalizing start text with
  | zero => rw [advance_zero, List.drop_zero, Nat.zero_add]
  | succ i ih =>
    cases text with
    | nil =>
      simp only [List.drop_nil, advance_nil, Location.mk.injEq, true_and]
      omega
    | cons c text =>
      rw [advance_cons, List.drop_succ_cons, ih, Nat.add_right_comm, advance_cons]

instance : LinearOrder Location :=
  LinearOrder.lift' (fun place => toLex (place.line, place.column)) fun a b same => by
    cases a
    cases b
    cases same
    rfl

theorem lt_iff {place other : Location} :
    place < other ↔
      place.line < other.line ∨ place.line = other.line ∧ place.column < other.column :=
  Prod.Lex.toLex_lt_toLex

theorem lt_behind (place : Location) (c : Char) : place < place.behind c := by
  rw [lt_iff, behind]
  split_ifs
  · exact .inl (Int.lt_succ place.line)
  · exact .inr ⟨rfl, Int.lt_succ place.column⟩

theorem lt_advance_one (start : Location) (text : List Char) : start < start.advance text 1 := by
  cases text with
  | nil =>
    rw [advance_nil, lt_iff]
    exact .inr ⟨rfl, Int.lt_succ start.column⟩
  | cons c text =>
    rw [advance_cons, advance_zero]
    exact start.lt_behind c

theorem advance_strictMono (start : Location) (text : List Char) :
    StrictMono (start.advance text) := by
  refine strictMono_nat_of_lt_succ fun index => ?_
  rw [← advance_advance]
  exact lt_advance_one _ _

def Tells (place start : Location) (text : List Char) (index : Nat) : Prop :=
  ∀ other, place = start.advance text other ↔ other = index

theorem tells_advance (start : Location) (text : List Char) (index : Nat) :
    (start.advance text index).Tells start text index := fun _ =>
  (start.advance_strictMono text).injective.eq_iff.trans eq_comm

end PlatformGate.Location
