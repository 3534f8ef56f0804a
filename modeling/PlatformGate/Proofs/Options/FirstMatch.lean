import Mathlib.Order.Bounds.Basic
import PlatformGate.Proofs.Options.Cursor
import PlatformGate.Proofs.Options.ReturnType

/-! Where the skippers stop, in terms of positions. Each counts what opens and what closes from its
start on. Arguments end at the first position in front of which as much has been closed as opened, a
return type at the first comma or closing bracket with that property. -/

namespace PlatformGate.Options

open Text

/-- The positions of a text that open something and those that close something. -/
structure Marks where
  opening : Nat → Bool
  closing : Nat → Bool

namespace Marks

variable (marks : Marks)

def Balanced (i e : Nat) : Prop :=
  (List.range' i (e - i)).countP marks.opening = (List.range' i (e - i)).countP marks.closing

instance (i e : Nat) : Decidable (marks.Balanced i e) :=
  inferInstanceAs (Decidable (_ = _))

def surplus (i e : Nat) : Int :=
  (List.range' i (e - i)).countP marks.opening - (List.range' i (e - i)).countP marks.closing

def change (i : Nat) : Int :=
  (if marks.opening i then 1 else 0) - (if marks.closing i then 1 else 0)

variable {marks} {i e : Nat}

theorem balanced_iff : marks.Balanced i e ↔ marks.surplus i e = 0 := by
  unfold Balanced surplus
  omega

theorem surplus_of_le (h : e ≤ i) : marks.surplus i e = 0 := by
  simp [surplus, Nat.sub_eq_zero_of_le h]

theorem surplus_of_lt (h : i < e) :
    marks.surplus i e = marks.change i + marks.surplus (i + 1) e := by
  have count : e - i = (e - (i + 1)) + 1 := by omega
  simp only [surplus, change, count, List.range'_succ, List.countP_cons]
  split_ifs <;> omega

theorem surplus_of_unmarked (unmarked : ∀ j, i ≤ j → marks.opening j = false ∧
    marks.closing j = false) (e : Nat) : marks.surplus i e = 0 := by
  have range : ∀ j ∈ List.range' i (e - i), i ≤ j := fun j mem => (List.mem_range'_1.mp mem).1
  have opening := List.countP_eq_zero.mpr fun j mem =>
    Bool.eq_false_iff.mp (unmarked j (range j mem)).1
  have closing := List.countP_eq_zero.mpr fun j mem =>
    Bool.eq_false_iff.mp (unmarked j (range j mem)).2
  rw [surplus, opening, closing]
  rfl

theorem neg_one_le_change : -1 ≤ marks.change i := by
  unfold change
  split_ifs <;> omega

end Marks

def behindMinus (text : List Char) (i : Nat) : Bool := 0 < i && text[i - 1]? == some '-'

def BracketKind.marks (kind : BracketKind) (text : List Char) : Marks where
  opening i := text[i]? == some kind.opening
  closing i := text[i]? == some kind.closing && !(kind.hasArrows && behindMinus text i)

/-- The brackets of all kinds. Behind a minus sign none of them closes anything. -/
def bracketMarks (text : List Char) : Marks where
  opening i := text[i]?.any opens
  closing i := text[i]?.any closes && !behindMinus text i

variable {text : List Char} {i : Nat}

theorem behindMinus_iff (positive : 0 < i) :
    behindMinus text i = true ↔ text[i - 1]? = some '-' := by
  simp [behindMinus, positive]

theorem BracketKind.change_marks (kind : BracketKind) (positive : 0 < i) {c : Char}
    (h : text[i]? = some c) : (kind.marks text).change i = kind.change text[i - 1]? c := by
  have apart : kind.opening ≠ kind.closing := by cases kind <;> decide
  simp only [Marks.change, BracketKind.marks, BracketKind.change, h, beq_iff_eq, Option.some.injEq,
    Bool.and_eq_true, Bool.not_eq_true', Bool.and_eq_false_iff, ← behindMinus_iff positive]
  by_cases opening : c = kind.opening
  · simp [opening, apart]
  · by_cases closing : c = kind.closing
    · cases kind.hasArrows <;> cases behindMinus text i <;> simp [closing, apart.symm]
    · simp [opening, closing]

theorem drop_of_getElem? {c : Char} (h : text[i]? = some c) :
    text.drop i = c :: text.drop (i + 1) := by
  obtain ⟨bound, rfl⟩ := List.getElem?_eq_some_iff.mp h
  exact List.drop_eq_getElem_cons bound

def BracketKind.ends (kind : BracketKind) (text : List Char) (depth : Int) (i : Nat) : Set Nat :=
  {e | i < e ∧ depth + (kind.marks text).surplus i e = 0}

theorem BracketKind.ends_of_ne {kind : BracketKind} {depth : Int}
    (deep : depth + (kind.marks text).change i ≠ 0) :
    kind.ends text depth i = kind.ends text (depth + (kind.marks text).change i) (i + 1) := by
  ext e
  constructor
  · rintro ⟨behind, zero⟩
    have first := (kind.marks text).surplus_of_lt behind
    have further : i + 1 ≠ e := by
      rintro rfl
      rw [Marks.surplus_of_le le_rfl] at first
      omega
    exact ⟨by omega, by omega⟩
  · rintro ⟨behind, zero⟩
    have first := (kind.marks text).surplus_of_lt (Nat.lt_of_succ_lt behind)
    exact ⟨by omega, by omega⟩

theorem BracketKind.surplus_of_length_le (kind : BracketKind) (beyond : text.length ≤ i)
    (e : Nat) : (kind.marks text).surplus i e = 0 := by
  refine Marks.surplus_of_unmarked (fun j later => ?_) e
  simp [BracketKind.marks, List.getElem?_eq_none (beyond.trans later)]

/-- The skipper goes on as long as the depth is not zero, and stops where it becomes zero. -/
theorem skip_least (kind : BracketKind) {depth : Int} (positive : 0 < i) (deep : 0 < depth) :
    (kind.skip text[i - 1]? depth (text.drop i) = none ∧ kind.ends text depth i = ∅) ∨
    ∃ e, e ≤ text.length ∧ kind.skip text[i - 1]? depth (text.drop i) = some (text.drop e) ∧
      IsLeast (kind.ends text depth i) e := by
  -- As long as the depth is not zero, the ends are the same from the next position on.
  induction left : text.length - i generalizing i depth with
  | zero =>
    have beyond : text.length ≤ i := by omega
    refine .inl ⟨by rw [List.drop_eq_nil_of_le beyond]; rfl, ?_⟩
    refine Set.eq_empty_of_forall_notMem fun e ⟨_, zero⟩ => ?_
    rw [kind.surplus_of_length_le beyond] at zero
    omega
  | succ n ih =>
    have bound : i < text.length := by omega
    have here := List.getElem?_eq_getElem bound
    have change := kind.change_marks positive here
    have bounded : -1 ≤ (kind.marks text).change i := Marks.neg_one_le_change
    rw [drop_of_getElem? here, BracketKind.skip, ← change]
    split
    next last =>
      refine .inr ⟨i + 1, bound, rfl, ⟨Nat.lt_succ_self i, ?_⟩, fun e ends => ends.1⟩
      rw [Marks.surplus_of_lt (Nat.lt_succ_self i), Marks.surplus_of_le le_rfl]
      omega
    next inner =>
      have same : some text[i] = text[i + 1 - 1]? := here.symm
      rw [BracketKind.ends_of_ne (by omega), same]
      exact ih (Nat.succ_pos i) (by omega) (by omega)

theorem skip_from_opening (kind : BracketKind) (start : text[i]? = some kind.opening)
    (previous : Option Char) :
    (kind.skip previous 0 (text.drop i) = none ∧
      {e | i < e ∧ (kind.marks text).Balanced i e} = ∅) ∨
    ∃ e, e ≤ text.length ∧ kind.skip previous 0 (text.drop i) = some (text.drop e) ∧
      IsLeast {e | i < e ∧ (kind.marks text).Balanced i e} e := by
  have apart : kind.opening ≠ kind.closing := by cases kind <;> decide
  have change : (kind.marks text).change i = 1 := by
    simp [Marks.change, BracketKind.marks, start, apart]
  have places : {e | i < e ∧ (kind.marks text).Balanced i e} = kind.ends text 1 (i + 1) := by
    calc {e | i < e ∧ (kind.marks text).Balanced i e}
        = kind.ends text 0 i := by simp only [Marks.balanced_iff, BracketKind.ends, Int.zero_add]
      _ = kind.ends text (0 + (kind.marks text).change i) (i + 1) :=
        BracketKind.ends_of_ne (by omega)
      _ = kind.ends text 1 (i + 1) := by rw [change, Int.zero_add]
  have skip : kind.skip previous 0 (text.drop i) =
      kind.skip text[i + 1 - 1]? 1 (text.drop (i + 1)) := by
    have opening : kind.change previous kind.opening = 1 := if_pos rfl
    rw [drop_of_getElem? start, BracketKind.skip, opening, if_neg (by simp), Int.zero_add,
      Nat.add_sub_cancel, start]
  rw [skip, places]
  exact skip_least kind (Nat.succ_pos i) Int.one_pos

def returnEnds (text : List Char) (depth : Nat) (i : Nat) : Set Nat :=
  {e | i ≤ e ∧ (text[e]? = some ',' ∨ (bracketMarks text).closing e = true) ∧
    depth + (bracketMarks text).surplus i e = 0}

def returnStops (text : List Char) (s : Nat) : Set Nat :=
  {e | s ≤ e ∧ (text[e]? = some ',' ∨ (bracketMarks text).closing e = true) ∧
    (bracketMarks text).Balanced s e}

theorem returnStops_eq (text : List Char) (s : Nat) : returnStops text s = returnEnds text 0 s := by
  simp [returnStops, returnEnds, Marks.balanced_iff]

theorem dropReturnType_congr {p q : Option Char} (same : SameBehind p q) (depth : Nat)
    (s : List Char) : dropReturnType p depth s = dropReturnType q depth s := by
  cases s with
  | nil => rfl
  | cons c s => rw [dropReturnType_cons, dropReturnType_cons, nextDepth?_congr same]

theorem closing_bracketMarks (positive : 0 < i) {c : Char} (h : text[i]? = some c) :
    (bracketMarks text).closing i = true ↔ closes c = true ∧ text[i - 1]? ≠ some '-' := by
  simp [bracketMarks, h, ← behindMinus_iff positive]

theorem closes_of_opens {c : Char} (h : opens c = true) : closes c = false := by
  simp only [opens, Bool.or_eq_true, beq_iff_eq] at h
  rcases h with (rfl | rfl) | rfl <;> rfl

theorem nextDepth?_eq_some (positive : 0 < i) {c : Char} (h : text[i]? = some c)
    {depth next : Nat} (step : nextDepth? text[i - 1]? depth c = some next) :
    (next : Int) = depth + (bracketMarks text).change i := by
  have opening : (bracketMarks text).opening i = opens c := by simp [bracketMarks, h]
  unfold nextDepth? at step
  simp only [Marks.change, opening, closing_bracketMarks positive h]
  split_ifs at step with open_ close
  · cases step
    simp [open_, closes_of_opens open_]
  · cases depth with
    | zero => cases step
    | succ outer =>
      cases step
      rw [if_neg open_, if_pos close]
      omega
  · cases step
    rw [if_neg open_, if_neg close]
    omega

theorem returnEnds_of_eq_some (positive : 0 < i) {c : Char} (h : text[i]? = some c)
    {depth next : Nat} (step : nextDepth? text[i - 1]? depth c = some next) :
    returnEnds text depth i = returnEnds text next (i + 1) := by
  have depths := nextDepth?_eq_some positive h step
  ext e
  constructor
  · rintro ⟨later, stop, zero⟩
    have further : i ≠ e := by
      rintro rfl
      rw [Marks.surplus_of_le le_rfl] at zero
      rw [closing_bracketMarks positive h, h, Option.some.injEq] at stop
      rw [nextDepth?_eq_none.mpr ⟨by omega, stop⟩] at step
      cases step
    have first := (bracketMarks text).surplus_of_lt (lt_of_le_of_ne later further)
    exact ⟨by omega, stop, by omega⟩
  · rintro ⟨later, stop, zero⟩
    have first := (bracketMarks text).surplus_of_lt (Nat.lt_of_succ_le later)
    exact ⟨by omega, stop, by omega⟩

/-- Reading goes on as long as the depth is defined, and stops where the next one is not. -/
theorem dropReturnType_least (depth : Nat) (positive : 0 < i) :
    (dropReturnType text[i - 1]? depth (text.drop i) = [] ∧ returnEnds text depth i = ∅) ∨
    ∃ e, e ≤ text.length ∧ dropReturnType text[i - 1]? depth (text.drop i) = text.drop e ∧
      IsLeast (returnEnds text depth i) e := by
  -- The depth never becomes negative: where it would, the type ends.
  induction left : text.length - i generalizing i depth with
  | zero =>
    have beyond : text.length ≤ i := by omega
    refine .inl ⟨by rw [List.drop_eq_nil_of_le beyond]; rfl, ?_⟩
    refine Set.eq_empty_of_forall_notMem fun e ⟨later, stop, _⟩ => ?_
    simp [bracketMarks, List.getElem?_eq_none (beyond.trans later)] at stop
  | succ n ih =>
    have bound : i < text.length := by omega
    have here := List.getElem?_eq_getElem bound
    have closing := closing_bracketMarks positive here
    rw [drop_of_getElem? here, dropReturnType_cons]
    cases step : nextDepth? text[i - 1]? depth text[i] with
    | none =>
      obtain ⟨rfl, stop⟩ := nextDepth?_eq_none.mp step
      refine .inr ⟨i, bound.le, (drop_of_getElem? here).symm, ⟨le_rfl, ?_, ?_⟩,
        fun e ends => ends.1⟩
      · exact stop.imp (fun comma => by rw [here, comma]) closing.mpr
      · rw [Marks.surplus_of_le le_rfl]
        rfl
    | some next =>
      have same : some text[i] = text[i + 1 - 1]? := here.symm
      simp only
      rw [returnEnds_of_eq_some positive here step, same]
      exact ih next (Nat.succ_pos i) (by omega)

namespace Cursor

variable {cursor : Cursor}

/-- The operation ends at the least of the places, and fails where it began if there is none. -/
structure EndsAtFirst (cursor : Cursor) (operation : Operation) (fault : Fault)
    (places : Set Nat) : Prop where
  ends : ∀ e, IsLeast places e →
    cursor.step operation = (.ok .nothing, { cursor with position := e })
  refused : (∃ diagnostic, (cursor.step operation).1 = .error diagnostic) ↔ places = ∅
  placed : ∀ diagnostic, (cursor.step operation).1 = .error diagnostic →
    diagnostic = ⟨fault.message, cursor.location.advance cursor.text cursor.position⟩

theorem moveTo_drop {e : Nat} (forward : cursor.position ≤ e) (bound : e ≤ cursor.text.length) :
    cursor.moveTo (cursor.text.drop e) = { cursor with position := e } := by
  simp only [moveTo, positionOf, rest, List.length_drop]
  congr
  omega

theorem positionOf_rest : cursor.positionOf cursor.rest = cursor.position := by
  simp [positionOf]

theorem endsAtFirst_of_skip (kind : BracketKind)
    (start : cursor.text[cursor.position]? = some kind.opening) {operation : Operation}
    {fault : Fault} {previous : Option Char}
    (step : cursor.step operation = cursor.answer (fun _ => .nothing)
      (cursor.closing fault (kind.skip previous 0 cursor.rest))) :
    cursor.EndsAtFirst operation fault
      {e | cursor.position < e ∧ (kind.marks cursor.text).Balanced cursor.position e} := by
  rcases skip_from_opening kind start previous with ⟨none, empty⟩ | ⟨e, bound, some, least⟩
  · have failed : (cursor.step operation).1 = .error ⟨fault.message,
        cursor.location.advance cursor.text cursor.position⟩ := by
      rw [step, rest, none, closing, answer, positionOf_rest]
    refine ⟨fun e least => ?_, iff_of_true ⟨_, failed⟩ empty, fun diagnostic error => ?_⟩
    · rw [empty] at least
      exact absurd least.1 (Set.notMem_empty e)
    · rw [failed] at error
      cases error
      rfl
  · have done : cursor.step operation = (.ok .nothing, { cursor with position := e }) := by
      rw [step, rest, some, closing, answer, moveTo_drop least.1.1.le bound]
    refine ⟨fun other isLeast => isLeast.unique least ▸ done, iff_of_false ?_ ?_, ?_⟩
    · rw [done]
      rintro ⟨_, ⟨⟩⟩
    · exact Set.Nonempty.ne_empty ⟨e, least.1⟩
    · rw [done]
      rintro _ ⟨⟩

structure Gap (cursor : Cursor) (s : Nat) : Prop where
  split : ∃ w, AllBlank w ∧ cursor.rest = w ++ cursor.text.drop s ∧ s = cursor.position + w.length
  start : skipBlank cursor.rest = cursor.text.drop s

theorem exists_gap (cursor : Cursor) : ∃ s, cursor.Gap s := by
  obtain ⟨w, hw, split⟩ := exists_blank_append cursor.rest
  have start : skipBlank cursor.rest = cursor.text.drop (cursor.position + w.length) := by
    calc skipBlank cursor.rest
        = (w ++ skipBlank cursor.rest).drop w.length := List.drop_left.symm
      _ = cursor.rest.drop w.length := by rw [← split]
      _ = cursor.text.drop (cursor.position + w.length) := List.drop_drop
  exact ⟨_, ⟨w, hw, start ▸ split, rfl⟩, start⟩

namespace Gap

variable {s : Nat} (gap : cursor.Gap s)

include gap

theorem le : cursor.position ≤ s := by
  obtain ⟨w, -, -, rfl⟩ := gap.split
  exact Nat.le_add_right _ _

theorem blank {j : Nat} (from_ : cursor.position ≤ j) (upTo : j < s) :
    ∃ c, cursor.text[j]? = some c ∧ isBlank c = true := by
  obtain ⟨w, hw, split, rfl⟩ := gap.split
  have inside : j - cursor.position < w.length := by omega
  have here : cursor.text[j]? = cursor.rest[j - cursor.position]? := by
    rw [rest, List.getElem?_drop, Nat.add_sub_cancel' from_]
  rw [here, split, List.getElem?_append_left inside, List.getElem?_eq_getElem inside]
  exact ⟨_, rfl, hw _ (List.getElem_mem inside)⟩

theorem solid {c : Char} (h : cursor.text[s]? = some c) : isBlank c = false := by
  have start := gap.start
  rw [drop_of_getElem? h] at start
  obtain ⟨d, head, isSolid⟩ := startsSolid_skipBlank (t := cursor.rest) (by rw [start]; simp)
  rw [start] at head
  cases head
  exact isSolid

theorem isLeast : IsLeast
    {s | cursor.position ≤ s ∧ ∀ c, cursor.text[s]? = some c → isBlank c = false} s := by
  refine ⟨⟨gap.le, fun c h => gap.solid h⟩, fun j ⟨from_, isSolid⟩ => ?_⟩
  by_contra before
  obtain ⟨c, here, isBlank⟩ := gap.blank from_ (Nat.lt_of_not_le before)
  rw [isSolid c here] at isBlank
  cases isBlank

theorem length_le (within : cursor.IsWithin) : s ≤ cursor.text.length := by
  by_contra beyond
  obtain ⟨c, here, -⟩ := gap.blank within (Nat.lt_of_not_le beyond)
  simp at here

theorem positionOf_drop : cursor.positionOf (cursor.text.drop s) = s := by
  obtain ⟨w, -, split, rfl⟩ := gap.split
  rw [positionOf, split, List.length_append, Nat.add_sub_cancel]

theorem sameBehind (later : 1 ≤ cursor.position) :
    SameBehind (previousOfStart cursor.previous cursor.rest) cursor.text[s - 1]? := by
  unfold previousOfStart
  rw [gap.start]
  rcases gap.le.eq_or_lt with same | further
  · rw [← same, ← rest, if_pos rfl, previous, if_neg (Nat.one_le_iff_ne_zero.mp later)]
    exact Iff.rfl
  · obtain ⟨c, here, -⟩ := gap.blank le_rfl further
    have bound := (List.getElem?_eq_some_iff.mp here).1
    obtain ⟨d, before, isBlank⟩ := gap.blank (Nat.le_sub_one_of_lt further) (by omega)
    rw [if_neg (by simp only [rest, List.length_drop]; omega), before]
    exact iff_of_false (by decide) (blank_ne_minus isBlank)

end Gap

structure SkipsReturnType (cursor : Cursor) (s i : Nat) : Prop where
  starts : IsLeast
    {s | cursor.position ≤ s ∧ ∀ c, cursor.text[s]? = some c → isBlank c = false} s
  stops : IsLeast (returnStops cursor.text s) i ∨
    returnStops cursor.text s = ∅ ∧ i = max s cursor.text.length
  moves : (cursor.step .skipReturnType).2 = { cursor with position := i }
  refused : (∃ diagnostic, (cursor.step .skipReturnType).1 = .error diagnostic) ↔
    AllBlank ((cursor.text.take i).drop s)
  placed : ∀ diagnostic, (cursor.step .skipReturnType).1 = .error diagnostic →
    diagnostic = ⟨Fault.returnType.message, cursor.location.advance cursor.text s⟩

theorem Gap.allBlank_iff {s i : Nat} (gap : cursor.Gap s) (later : s ≤ i)
    (bound : i ≤ cursor.text.length ∨ i = s) :
    AllBlank ((cursor.text.take i).drop s) ↔ i = s := by
  constructor
  · intro blank
    by_contra other
    have inside : s < i := lt_of_le_of_ne later (Ne.symm other)
    have fits : i ≤ cursor.text.length := bound.resolve_right other
    have here := List.getElem?_eq_getElem (lt_of_lt_of_le inside fits)
    have member : cursor.text[s] ∈ (cursor.text.take i).drop s := by
      refine List.mem_iff_getElem?.mpr ⟨0, ?_⟩
      rw [List.getElem?_drop, List.getElem?_take_of_lt (by omega), Nat.add_zero, here]
    have solid := gap.solid here
    rw [blank _ member] at solid
    cases solid
  · rintro rfl
    rw [List.drop_eq_nil_of_le (List.length_take_le _ _)]
    exact allBlank_nil

theorem Gap.exists_stop {s : Nat} (gap : cursor.Gap s) (later : 1 ≤ cursor.position) :
    ∃ i, (IsLeast (returnStops cursor.text s) i ∨
        returnStops cursor.text s = ∅ ∧ i = max s cursor.text.length) ∧
      s ≤ i ∧ (i ≤ cursor.text.length ∨ i = s) ∧
      dropReturnType (previousOfStart cursor.previous cursor.rest) 0 (cursor.text.drop s) =
        cursor.text.drop i := by
  rw [returnStops_eq, dropReturnType_congr (gap.sameBehind later)]
  rcases dropReturnType_least 0 (later.trans gap.le) with
    ⟨nothing, empty⟩ | ⟨i, bound, dropped, least⟩
  · refine ⟨_, .inr ⟨empty, rfl⟩, le_max_left _ _, ?_, ?_⟩
    · exact (le_total s cursor.text.length).imp (fun h => (max_eq_right h).le) max_eq_left
    · rw [nothing, List.drop_eq_nil_of_le (le_max_right _ _)]
  · exact ⟨i, .inl least, least.1.1, .inl bound, dropped⟩

theorem exists_skipsReturnType (later : 1 ≤ cursor.position) :
    ∃ s i, cursor.SkipsReturnType s i ∧ (cursor.IsWithin → s ≤ cursor.text.length) := by
  obtain ⟨s, gap⟩ := cursor.exists_gap
  obtain ⟨i, stops, further, bound, dropped⟩ := gap.exists_stop later
  have moved : cursor.moveTo (cursor.text.drop i) = { cursor with position := i } := by
    rcases bound with fits | rfl
    · exact moveTo_drop (gap.le.trans further) fits
    · rw [moveTo, gap.positionOf_drop]
  have missing : (cursor.text.drop i).length = (cursor.text.drop s).length ↔
      AllBlank ((cursor.text.take i).drop s) := by
    rw [gap.allBlank_iff further bound, List.length_drop, List.length_drop]
    omega
  have step : cursor.step .skipReturnType = cursor.answer (fun _ => .nothing)
      (if (cursor.text.drop i).length = (cursor.text.drop s).length
        then .failed .returnType (cursor.text.drop s) (cursor.text.drop i)
        else .done () (cursor.text.drop i)) := by
    simp only [Cursor.step, skipReturnType, gap.start, dropped]
  refine ⟨s, i, ?_, gap.length_le⟩
  by_cases blank : AllBlank ((cursor.text.take i).drop s)
  · rw [if_pos (missing.mpr blank), answer, gap.positionOf_drop, moved] at step
    refine ⟨gap.isLeast, stops, by rw [step], iff_of_true ⟨_, by rw [step]⟩ blank, ?_⟩
    rw [step]
    rintro _ ⟨⟩
    rfl
  · rw [if_neg (mt missing.mp blank), answer, moved] at step
    refine ⟨gap.isLeast, stops, by rw [step], iff_of_false ?_ blank, ?_⟩
    · rw [step]
      rintro ⟨_, ⟨⟩⟩
    · rw [step]
      rintro _ ⟨⟩

end Cursor

/-- Each skipper stops at the first position where its counts allow it, and fails at its start if
there is none or nothing has been skipped. -/
theorem skippers_stop_at_first (cursor : Cursor) :
    (cursor.text[cursor.position]? = some '<' → cursor.EndsAtFirst .skipAngles .unclosedAngle
      {e | cursor.position < e ∧
        (BracketKind.angle.marks cursor.text).Balanced cursor.position e}) ∧
    (cursor.text[cursor.position]? = some '(' →
      cursor.EndsAtFirst .skipParentheses .unclosedParenthesis
        {e | cursor.position < e ∧
          (BracketKind.parenthesis.marks cursor.text).Balanced cursor.position e}) ∧
    (1 ≤ cursor.position →
      ∃ s i, cursor.SkipsReturnType s i ∧ (cursor.IsWithin → s ≤ cursor.text.length)) := by
  refine ⟨fun start => ?_, fun start => ?_, Cursor.exists_skipsReturnType⟩
  · exact Cursor.endsAtFirst_of_skip .angle start (by rw [← BracketKind.skipAngles_eq]; rfl)
  · exact Cursor.endsAtFirst_of_skip .parenthesis start
      (by rw [← BracketKind.skipParentheses_eq none]; rfl)

theorem skippers_stop_at_first_of_arrow :
    Cursor.step ⟨"<->,>>".toList, ⟨1, 1⟩, 0⟩ .skipAngles =
      (.ok .nothing, ⟨"<->,>>".toList, ⟨1, 1⟩, 5⟩) ∧
    {e | 0 < e ∧ (BracketKind.parenthesis.marks "(()".toList).Balanced 0 e} = ∅ ∧
    ∃ s, Cursor.SkipsReturnType ⟨"->  (a,b), c".toList, ⟨1, 1⟩, 2⟩ s 9 := by
  refine ⟨?_, ?_, ?_⟩
  · refine ((skippers_stop_at_first ⟨"<->,>>".toList, ⟨1, 1⟩, 0⟩).1 rfl).ends 5
      ⟨⟨by decide, by decide⟩, fun e ⟨positive, balanced⟩ => ?_⟩
    have before : ∀ e < 5, 0 < e →
        ¬(BracketKind.angle.marks "<->,>>".toList).Balanced 0 e := by decide
    by_contra less
    exact before e (Nat.lt_of_not_le less) positive balanced
  · refine (((skippers_stop_at_first ⟨"(()".toList, ⟨1, 1⟩, 0⟩).2.1 rfl).refused).mp ?_
    exact ⟨⟨"unclosed `(` in trait path", ⟨1, 1⟩⟩, by decide +kernel⟩
  · obtain ⟨s, i, skips, -⟩ :=
      (skippers_stop_at_first ⟨"->  (a,b), c".toList, ⟨1, 1⟩, 2⟩).2.2 (by decide)
    have step : (Cursor.step ⟨"->  (a,b), c".toList, ⟨1, 1⟩, 2⟩
        .skipReturnType).2.position = 9 := by decide +kernel
    rw [skips.moves] at step
    exact ⟨s, step ▸ skips⟩

end PlatformGate.Options
