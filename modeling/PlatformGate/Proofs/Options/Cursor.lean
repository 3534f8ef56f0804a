import PlatformGate.OptionBlock
import PlatformGate.Options.Cursor
import PlatformGate.Proofs.Options.Turn

/-! A cursor that is nowhere set back. An operation moves its position forward in the same text, not
beyond the end, and an error stands in what has just been read; this carries over to any sequence of
operations. A turn of a loop that another one follows moves the position at least one character, so
the clauses of a text come to an end, which on success is the end of the text. -/

namespace PlatformGate.Options

open Text

def Operation.seeks : Operation → Bool
  | .seek _ => true
  | _ => false

namespace Cursor

variable {cursor next last : Cursor} {α : Type}

def IsWithin (cursor : Cursor) : Prop := cursor.position ≤ cursor.text.length

structure Precedes (cursor next : Cursor) : Prop where
  text : next.text = cursor.text
  location : next.location = cursor.location
  forward : cursor.position ≤ next.position
  within : next.position ≤ cursor.text.length

namespace Precedes

theorem refl (within : cursor.IsWithin) : cursor.Precedes cursor := ⟨rfl, rfl, le_rfl, within⟩

theorem trans (first : cursor.Precedes next) (second : next.Precedes last) :
    cursor.Precedes last where
  text := second.text.trans first.text
  location := second.location.trans first.location
  forward := first.forward.trans second.forward
  within := first.text ▸ second.within

theorem isWithin (precedes : cursor.Precedes next) : next.IsWithin := by
  unfold IsWithin
  rw [precedes.text]
  exact precedes.within

end Precedes

structure Advances (cursor : Cursor) (answer : Except Diagnostic Value × Cursor) : Prop where
  precedes : cursor.Precedes answer.2
  placed : ∀ diagnostic, answer.1 = .error diagnostic → ∃ i, cursor.position ≤ i ∧
    i ≤ answer.2.position ∧ diagnostic.location = cursor.location.advance cursor.text i

section Within

variable (within : cursor.IsWithin)

include within

theorem positionOf_eq {ending : List Char} (isEnding : ending <:+ cursor.rest) :
    cursor.positionOf ending = cursor.text.length - ending.length := by
  have shorter := isEnding.length_le
  have length := List.length_drop (i := cursor.position) (l := cursor.text)
  unfold IsWithin at within
  simp only [positionOf, rest] at shorter ⊢
  omega

theorem precedes_moveTo {ending : List Char} (isEnding : ending <:+ cursor.rest) :
    cursor.Precedes (cursor.moveTo ending) where
  text := rfl
  location := rfl
  forward := Nat.le_add_right _ _
  within := by
    simp only [moveTo, positionOf_eq within isEnding]
    exact Nat.sub_le _ _

theorem rest_moveTo {ending : List Char} (isEnding : ending <:+ cursor.rest) :
    (cursor.moveTo ending).rest = ending := by
  have whole := isEnding.trans (List.drop_suffix cursor.position cursor.text)
  simp only [rest, moveTo, positionOf_eq within isEnding]
  exact (List.suffix_iff_eq_drop.mp whole).symm

theorem isBeyond_of_isWithin : cursor.isBeyond = false := by
  simpa only [isBeyond, decide_eq_false_iff_not, not_lt, IsWithin] using within

theorem advances_ok {value : Value} {ending : List Char} (isEnding : ending <:+ cursor.rest) :
    cursor.Advances (.ok value, cursor.moveTo ending) :=
  ⟨precedes_moveTo within isEnding, nofun⟩

theorem advances_answer {outcome : Outcome α} (value : α → Value)
    (read : outcome.Within cursor.rest) : cursor.Advances (cursor.answer value outcome) := by
  cases read with
  | done isEnding => exact advances_ok within isEnding
  | @failed fault place rest inside behind =>
    refine ⟨precedes_moveTo within (behind.trans inside), fun diagnostic failed => ?_⟩
    cases failed
    have later := behind.length_le
    refine ⟨cursor.positionOf place, Nat.le_add_right _ _, ?_, rfl⟩
    simp only [answer, moveTo, positionOf]
    omega

omit within in
theorem within_closing {fault : Fault} {skipped : Option (List Char)}
    (ending : ∀ behind, skipped = some behind → behind <:+ cursor.rest) :
    (cursor.closing fault skipped).Within cursor.rest := by
  cases skipped with
  | none => exact .failed (List.suffix_refl _) List.nil_suffix
  | some behind => exact .done (ending behind rfl)

theorem advances_step {operation : Operation} (forward : ¬operation.seeks) :
    cursor.Advances (cursor.step operation) := by
  have blank := skipBlank_suffix cursor.rest
  cases operation with
  | seek => exact absurd rfl forward
  | skipBlank => exact advances_ok within blank
  | atEnd => exact advances_ok within blank
  | peek => exact advances_ok within blank
  | peekName => exact advances_ok within blank
  | expect token =>
    have expected : cursor.expectToken token.toList = expect token.toList cursor.rest := by
      simp [expectToken, isBeyond_of_isWithin within]
    simp only [step, expected]
    exact advances_answer within _ (within_expect _ _)
  | takeName what => exact advances_answer within _ (within_takeName what _)
  | skipAngles =>
    exact advances_answer within _ (within_closing fun _ => suffix_of_skipAngles)
  | skipParentheses =>
    exact advances_answer within _ (within_closing fun _ => suffix_of_skipParentheses)
  | skipReturnType => exact advances_answer within _ (within_skipReturnType _ _)
  | group => exact advances_answer within _ (within_groupReader _)
  | traitPath => exact advances_answer within _ (within_traitReader _)
  | groupList => exact advances_answer within _ (within_readList within_groupReader _)
  | traitList => exact advances_answer within _ (within_readList within_traitReader _)

end Within

def after (cursor : Cursor) (operations : List Operation) : Cursor :=
  operations.foldl (fun now operation => (now.step operation).2) cursor

theorem getElem?_run (cursor : Cursor) (before behind : List Operation) (operation : Operation) :
    (cursor.run (before ++ operation :: behind))[before.length]? =
      some (((cursor.after before).step operation).1,
        ((cursor.after before).step operation).2.position) := by
  induction before generalizing cursor with
  | nil => simp [run, after]
  | cons first before ih =>
    simp only [List.cons_append, List.length_cons, run, List.getElem?_cons_succ, ih]
    rfl

theorem precedes_after {operations : List Operation} (within : cursor.IsWithin)
    (forward : ∀ operation ∈ operations, ¬operation.seeks) :
    cursor.Precedes (cursor.after operations) := by
  induction operations generalizing cursor with
  | nil => exact .refl within
  | cons operation operations ih =>
    have step := (advances_step within (forward operation List.mem_cons_self)).precedes
    exact step.trans (ih step.isWithin fun later mem => forward later (List.mem_cons_of_mem _ mem))

end Cursor

namespace Loop

variable {α β : Type} {loop : Loop α β} {cursor : Cursor}

/-- The turns of a loop from a cursor on, with what they read, the cursor before the last turn and
what that one comes to. -/
inductive Runs (loop : Loop α β) : Cursor → List α → Cursor → Outcome β → Prop
  | stop {cursor : Cursor} {outcome : Outcome β} (turn : loop.turn cursor.rest = .stop outcome) :
      Runs loop cursor [] cursor outcome
  | again {cursor last : Cursor} {item : α} {rest : List Char} {items : List α}
      {outcome : Outcome β} (turn : loop.turn cursor.rest = .again item rest)
      (later : Runs loop (cursor.moveTo rest) items last outcome) :
      Runs loop cursor (item :: items) last outcome

def Progresses (loop : Loop α β) : Prop :=
  ∀ (cursor : Cursor) (item : α) (rest : List Char), cursor.IsWithin →
    loop.turn cursor.rest = .again item rest →
    cursor.position < (cursor.moveTo rest).position ∧
      (cursor.moveTo rest).position ≤ cursor.text.length ∧ (cursor.moveTo rest).rest = rest

theorem progresses (loop : Loop α β) : loop.Progresses := by
  intro cursor item rest within turn
  obtain ⟨ending, less⟩ := shorter turn
  refine ⟨?_, (Cursor.precedes_moveTo within ending).within, Cursor.rest_moveTo within ending⟩
  simp only [Cursor.moveTo, Cursor.positionOf]
  omega

/-- There is a last turn, since no turn but the last leaves the cursor where it is. -/
theorem exists_runs (loop : Loop α β) (within : cursor.IsWithin) :
    ∃ items last outcome, loop.Runs cursor items last outcome ∧ cursor.Precedes last ∧
      cursor.position + items.length ≤ last.position := by
  -- Every turn but the last leaves less of the text.
  induction left : cursor.text.length - cursor.position using Nat.strongRecOn
    generalizing cursor with
  | _ n ih =>
    cases turn : loop.turn cursor.rest with
    | stop outcome => exact ⟨[], cursor, outcome, .stop turn, .refl within, le_rfl⟩
    | again item rest =>
      obtain ⟨moved, bounded, -⟩ := loop.progresses cursor item rest within turn
      have next := Cursor.precedes_moveTo within (shorter turn).1
      have text : (cursor.moveTo rest).text.length = cursor.text.length := rfl
      obtain ⟨items, last, outcome, runs, precedes, count⟩ :=
        ih (cursor.text.length - (cursor.moveTo rest).position) (by omega) next.isWithin rfl
      refine ⟨item :: items, last, outcome, .again turn runs, next.trans precedes, ?_⟩
      rw [List.length_cons]
      omega

def collect (loop : Loop α β) (items : List α) (outcome : Outcome β) : Outcome β :=
  items.foldr (fun item later => Outcome.map (loop.extend item) later) outcome

theorem collect_done (items : List α) (value : β) (rest : List Char) :
    loop.collect items (.done value rest) = .done (items.foldr loop.extend value) rest := by
  induction items with
  | nil => rfl
  | cons item items ih =>
    rw [collect, List.foldr_cons, ← collect, ih]
    rfl

theorem collect_failed (items : List α) (fault : Fault) (place rest : List Char) :
    loop.collect items (.failed fault place rest) = .failed fault place rest := by
  induction items with
  | nil => rfl
  | cons item items ih =>
    rw [collect, List.foldr_cons, ← collect, ih]
    rfl

theorem Runs.read {read : List Char → Outcome β} {items : List α} {last : Cursor}
    {outcome : Outcome β} (runs : loop.Runs cursor items last outcome) (within : cursor.IsWithin)
    (unrolls : loop.Unrolls read) : read cursor.rest = loop.collect items outcome := by
  induction runs with
  | stop turn => rw [unrolls, turn]; rfl
  | @again cursor last item rest items outcome turn later ih =>
    have ending := (shorter turn).1
    have next := ih (Cursor.precedes_moveTo within ending).isWithin
    rw [Cursor.rest_moveTo within ending] at next
    rw [unrolls, turn]
    exact congrArg (Outcome.map (loop.extend item)) next

theorem Runs.turn_last {items : List α} {last : Cursor} {outcome : Outcome β}
    (runs : loop.Runs cursor items last outcome) : loop.turn last.rest = .stop outcome := by
  induction runs with
  | stop turn => exact turn
  | again _ _ ih => exact ih

end Loop

theorem eq_nil_of_clauseTurn {allowed : Bool} {text rest : List Char} {clauses : List Clause}
    (turn : clauseTurn allowed text = .stop (.done clauses rest)) : clauses = [] ∧ rest = [] := by
  unfold clauseTurn at turn
  split at turn
  next blank =>
    cases turn
    exact ⟨rfl, List.isEmpty_iff.mp blank⟩
  next =>
    split at turn
    next => cases turn
    next =>
      split at turn
      next => cases turn
      next =>
        split at turn
        next => cases turn
        next => cases turn

/-- What a text is read as, from the last turn of the loop over its clauses: at the end of the text,
or with a fault. -/
inductive Ends (text : String) (allowed : Bool) (location : Location) (clauses : List Clause)
    (last : Cursor) : Outcome (List Clause) → Prop
  | accepted {rest : List Char}
      (atEnd : (last.moveTo rest).position = text.toList.length)
      (parsed : OptionBlock.parse text allowed location =
        .ok (OptionBlock.ofClauses clauses location)) :
      Ends text allowed location clauses last (.done [] rest)
  | refused {fault : Fault} {place rest : List Char}
      (parsed : OptionBlock.parse text allowed location =
        .error ⟨fault.message, location.advance text.toList (last.positionOf place)⟩) :
      Ends text allowed location clauses last (.failed fault place rest)

theorem ends_of_runs {text : String} {allowed : Bool} {location : Location}
    {clauses : List Clause} {last : Cursor} {outcome : Outcome (List Clause)}
    (runs : (clauseLoop allowed).Runs (.start text location) clauses last outcome)
    (precedes : (Cursor.start text location).Precedes last) :
    Ends text allowed location clauses last outcome := by
  have begin : (Cursor.start text location).IsWithin := Nat.zero_le _
  have read := runs.read begin (unrolls_readClauses allowed)
  have chars : (Cursor.start text location).rest = text.toList := List.drop_zero
  have turn := runs.turn_last
  have sameText : last.text = text.toList := precedes.text
  rw [chars] at read
  -- The last turn finds no further clause, or a fault.
  cases outcome with
  | done more rest =>
    obtain ⟨rfl, rfl⟩ := eq_nil_of_clauseTurn turn
    have clausesRead : readClauses allowed text.toList = .done clauses [] := by
      rw [read, Loop.collect_done]
      exact congrArg (Outcome.done · []) List.foldr_cons_nil
    refine .accepted ?_ (by simp only [OptionBlock.parse, clausesRead])
    simp [Cursor.moveTo, Cursor.positionOf_eq precedes.isWithin List.nil_suffix, sameText]
  | failed fault place rest =>
    have faultFound : readClauses allowed text.toList = .failed fault place rest := by
      rw [read, Loop.collect_failed]
    have inside : place <:+ last.rest := by
      cases Loop.within_stop turn with
      | failed inside => exact inside
    refine .refused ?_
    simp only [OptionBlock.parse, faultFound,
      Cursor.positionOf_eq precedes.isWithin inside, sameText]

/-- Operations that do not seek only move the cursor forward in its text; so do the turns of the
three loops, by at least one character, and the loop over the clauses of a text has a last turn. -/
theorem reads_forward :
    (∀ (cursor : Cursor) (before behind : List Operation) (operation : Operation),
      cursor.IsWithin → (∀ o ∈ before ++ operation :: behind, ¬o.seeks) →
      let now := cursor.after before
      (cursor.run (before ++ operation :: behind))[before.length]? =
        some ((now.step operation).1, (now.step operation).2.position) ∧
      cursor.Precedes now ∧ now.Advances (now.step operation)) ∧
    (groupLoop.Unrolls (readItems groupReader) ∧ groupLoop.Progresses) ∧
    (traitLoop.Unrolls (readItems traitReader) ∧ traitLoop.Progresses) ∧
    (segmentLoop.Unrolls skipSegments ∧ segmentLoop.Progresses) ∧
    ∀ (text : String) (allowed : Bool) (location : Location),
      ((clauseLoop allowed).Unrolls (readClauses allowed) ∧ (clauseLoop allowed).Progresses) ∧
      ∃ clauses last outcome,
        (clauseLoop allowed).Runs (.start text location) clauses last outcome ∧
        clauses.length ≤ text.toList.length ∧ Ends text allowed location clauses last outcome := by
  refine ⟨fun cursor before behind operation within forward => ?_,
    ⟨unrolls_readItems _, groupLoop.progresses⟩, ⟨unrolls_readItems _, traitLoop.progresses⟩,
    ⟨unrolls_skipSegments, segmentLoop.progresses⟩,
    fun text allowed location =>
      ⟨⟨unrolls_readClauses allowed, (clauseLoop allowed).progresses⟩, ?_⟩⟩
  · have now := Cursor.precedes_after within fun o mem => forward o (List.mem_append_left _ mem)
    have steps : ¬operation.seeks :=
      forward operation (List.mem_append_right _ List.mem_cons_self)
    exact ⟨Cursor.getElem?_run cursor before behind operation, now,
      Cursor.advances_step now.isWithin steps⟩
  · have begin : (Cursor.start text location).IsWithin := Nat.zero_le _
    obtain ⟨clauses, last, outcome, runs, precedes, count⟩ :=
      (clauseLoop allowed).exists_runs begin
    have start : (Cursor.start text location).position = 0 := rfl
    have bounded : last.position ≤ text.toList.length := precedes.within
    exact ⟨clauses, last, outcome, runs, by omega, ends_of_runs runs precedes⟩

theorem reads_forward_of_unclosed :
    let cursor : Cursor := ⟨"Vec <T".toList, ⟨1, 5⟩, 0⟩
    let operations := [.takeName "trait path", .peek "<", .skipAngles]
    (cursor.run operations)[2]? =
      some (.error ⟨"unclosed `<` in trait path", ⟨1, 9⟩⟩, 6) ∧
    ∃ i, 4 ≤ i ∧ i ≤ 6 ∧ (⟨1, 9⟩ : Location) = cursor.location.advance cursor.text i := by
  intro cursor operations
  obtain ⟨entry, -, advances⟩ := reads_forward.1 cursor [.takeName "trait path", .peek "<"] []
    .skipAngles (Nat.zero_le _) (by decide)
  have step : (cursor.after [.takeName "trait path", .peek "<"]).step .skipAngles =
      (.error ⟨"unclosed `<` in trait path", ⟨1, 9⟩⟩, ⟨"Vec <T".toList, ⟨1, 5⟩, 6⟩) := by
    decide +kernel
  rw [step] at entry advances
  exact ⟨entry, advances.placed _ rfl⟩

end PlatformGate.Options
