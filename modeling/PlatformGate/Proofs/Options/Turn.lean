import PlatformGate.Proofs.Options.Block

/-! Reading in turns. Every reader stops at an ending of what it was given to read and reports a
fault in what it has read. The readers that repeat a step, over the names of a path, the items of a
list and the clauses of a text, are loops: a turn that another one follows leaves a shorter text, so
there is a last turn. -/

namespace PlatformGate.Options

open Text

variable {α β : Type}

namespace Outcome

theorem map_same (o : Outcome α) : o.map (fun value => value) = o := by
  cases o with
  | done => rfl
  | failed => rfl

variable {text : List Char}

/-- What is left is an ending of the text, and a fault stands in what has been read. -/
inductive Within (text : List Char) : Outcome α → Prop
  | done {value : α} {rest : List Char} (ending : rest <:+ text) : Within text (.done value rest)
  | failed {fault : Fault} {place rest : List Char} (inside : place <:+ text)
      (behind : rest <:+ place) : Within text (.failed fault place rest)

namespace Within

theorem mono {part : List Char} {o : Outcome α} (h : o.Within part) (ending : part <:+ text) :
    o.Within text := by
  cases h with
  | done rest => exact .done (rest.trans ending)
  | failed inside behind => exact .failed (inside.trans ending) behind

theorem map {o : Outcome α} (h : o.Within text) (f : α → β) : (o.map f).Within text := by
  cases h with
  | done ending => exact .done ending
  | failed inside behind => exact .failed inside behind

theorem andThen {o : Outcome α} {next : α → List Char → Outcome β} (h : o.Within text)
    (later : ∀ value rest, (next value rest).Within rest) : (o.andThen next).Within text := by
  cases h with
  | done ending => exact (later _ _).mono ending
  | failed inside behind => exact .failed inside behind

end Within

theorem suffix_of_done {value : α} {rest : List Char}
    (h : (done value rest).Within text) : rest <:+ text := by
  cases h with
  | done ending => exact ending

theorem within_failed {fault : Fault} {place rest : List Char}
    (h : (failed fault place rest : Outcome α).Within text) :
    (failed fault place rest : Outcome β).Within text := by
  cases h with
  | failed inside behind => exact .failed inside behind

end Outcome

theorem skipBlank_suffix (text : List Char) : skipBlank text <:+ text :=
  List.dropWhile_suffix isBlank

theorem within_failed_start (fault : Fault) (text : List Char) :
    (Outcome.failed fault (skipBlank text) (skipBlank text) : Outcome α).Within text :=
  .failed (skipBlank_suffix text) (List.suffix_refl _)

theorem within_expect (token text : List Char) : (expect token text).Within text := by
  simp only [expect]
  split
  · exact .done ((List.drop_suffix _ _).trans (skipBlank_suffix text))
  · exact within_failed_start _ text

theorem within_takeName (what : String) (text : List Char) : (takeName what text).Within text := by
  simp only [takeName]
  split
  · exact within_failed_start _ text
  · exact .done ((List.drop_suffix _ _).trans (skipBlank_suffix text))

theorem within_groupReader (text : List Char) : (groupReader.read text).Within text := by
  simp only [groupReader, readGroup]
  split
  · exact .done ((List.drop_suffix _ _).trans (skipBlank_suffix text))
  · exact within_failed_start _ text

theorem within_skipReturnType (previous : Option Char) (text : List Char) :
    (skipReturnType previous text).Within text := by
  have behind := dropReturnType_suffix (previousOfStart previous text) 0 (skipBlank text)
  simp only [skipReturnType]
  split
  · exact .failed (skipBlank_suffix text) behind
  · exact .done (behind.trans (skipBlank_suffix text))

theorem BracketKind.suffix_of_skip {kind : BracketKind} {previous : Option Char} {depth : Int}
    {text rest : List Char} (h : kind.skip previous depth text = some rest) : rest <:+ text := by
  obtain ⟨inner, split, -⟩ := exists_of_skip h
  exact ⟨inner, split.symm⟩

theorem suffix_of_skipAngles {previous : Option Char} {depth : Int} {text rest : List Char}
    (h : skipAngles previous depth text = some rest) : rest <:+ text :=
  BracketKind.suffix_of_skip (BracketKind.skipAngles_eq previous depth text ▸ h)

theorem suffix_of_skipParentheses {depth : Int} {text rest : List Char}
    (h : skipParentheses depth text = some rest) : rest <:+ text :=
  BracketKind.suffix_of_skip (BracketKind.skipParentheses_eq none depth text ▸ h)

theorem within_skipArguments (text : List Char) : (skipArguments text).Within text := by
  have start := skipBlank_suffix text
  unfold skipArguments
  split
  next inner opening =>
    rw [opening] at start
    split
    next behind skipped => exact .done ((suffix_of_skipAngles skipped).trans start)
    next => exact .failed start List.nil_suffix
  next inner opening =>
    rw [opening] at start
    split
    next => exact .failed start List.nil_suffix
    next behind skipped =>
      have tail := (skipBlank_suffix behind).trans ((suffix_of_skipParentheses skipped).trans start)
      split
      next result arrow =>
        rw [arrow] at tail
        have inside : result <:+ '-' :: '>' :: result := List.suffix_append ['-', '>'] result
        exact ((within_skipReturnType (some '>') result).map _).mono (inside.trans tail)
      next => exact .done tail
  next => exact .done start

inductive Turn (α β : Type) where
  | again (item : α) (rest : List Char)
  | stop (outcome : Outcome β)

/-- A turn leaves an ending of the text, which is a shorter one if another turn follows. -/
inductive Turn.Within (text : List Char) : Turn α β → Prop
  | again {item : α} {rest : List Char} (ending : rest <:+ text)
      (shorter : rest.length < text.length) : Within text (.again item rest)
  | stop {outcome : Outcome β} (within : outcome.Within text) : Within text (.stop outcome)

/-- A loop over a text. What a turn has read goes in front of what the later ones read. -/
structure Loop (α β : Type) where
  turn : List Char → Turn α β
  extend : α → β → β
  within : ∀ text, (turn text).Within text

namespace Loop

def Unrolls (loop : Loop α β) (read : List Char → Outcome β) : Prop :=
  ∀ text, read text =
    match loop.turn text with
    | .again item rest => (read rest).map (loop.extend item)
    | .stop outcome => outcome

variable {loop : Loop α β}

theorem shorter {text rest : List Char} {item : α} (h : loop.turn text = .again item rest) :
    rest <:+ text ∧ rest.length < text.length := by
  have within := loop.within text
  rw [h] at within
  cases within with
  | again ending shorter => exact ⟨ending, shorter⟩

theorem within_stop {text : List Char} {outcome : Outcome β}
    (h : loop.turn text = .stop outcome) : outcome.Within text := by
  have within := loop.within text
  rw [h] at within
  cases within with
  | stop within => exact within

theorem Unrolls.within {read : List Char → Outcome β} (unrolls : loop.Unrolls read)
    (text : List Char) : (read text).Within text := by
  induction length : text.length using Nat.strongRecOn generalizing text with
  | _ n ih =>
    rw [unrolls text]
    cases turn : loop.turn text with
    | stop outcome => exact within_stop turn
    | again item rest =>
      obtain ⟨ending, less⟩ := shorter turn
      exact ((ih rest.length (length ▸ less) rest rfl).map _).mono ending

end Loop

def segmentTurn (text : List Char) : Turn Unit Unit :=
  match takeName "trait path" text with
  | .failed fault place rest => .stop (.failed fault place rest)
  | .done _ behindName =>
    match skipArguments behindName with
    | .failed fault place rest => .stop (.failed fault place rest)
    | .done false rest => .stop (.done () rest)
    | .done true behind =>
      match skipBlank behind with
      | ':' :: ':' :: rest => .again () rest
      | rest => .stop (.done () rest)

theorem within_segmentTurn (text : List Char) : (segmentTurn text).Within text := by
  have first := within_takeName "trait path" text
  unfold segmentTurn
  split
  next failed =>
    rw [failed] at first
    exact .stop (Outcome.within_failed first)
  next name behindName named =>
    rw [named] at first
    have behindNameEnding := Outcome.suffix_of_done first
    have nameLength := takeName_length named
    have second := within_skipArguments behindName
    split
    next failed =>
      rw [failed] at second
      exact .stop (Outcome.within_failed (second.mono behindNameEnding))
    next rest skipped =>
      rw [skipped] at second
      exact .stop (.done ((Outcome.suffix_of_done second).trans behindNameEnding))
    next behind skipped =>
      rw [skipped] at second
      have ending := (skipBlank_suffix behind).trans
        ((Outcome.suffix_of_done second).trans behindNameEnding)
      have length := (skipBlank_length_le behind).trans (skipArguments_length skipped)
      split
      next rest joined =>
        rw [joined] at ending length
        simp only [List.length_cons] at length
        exact .again ((List.suffix_append [':', ':'] rest).trans ending) (by omega)
      next => exact .stop (.done ending)

def segmentLoop : Loop Unit Unit := ⟨segmentTurn, fun _ rest => rest, within_segmentTurn⟩

theorem unrolls_skipSegments : segmentLoop.Unrolls skipSegments := by
  intro text
  rw [skipSegments_eq]
  simp only [segmentLoop, segmentTurn]
  cases takeName "trait path" text with
  | failed => rfl
  | done name behindName =>
    simp only [Outcome.andThen]
    cases skipArguments behindName with
    | failed => rfl
    | done more behind =>
      cases more with
      | false => rfl
      | true =>
        simp only [if_true]
        generalize skipBlank behind = tail
        split
        next rest => exact (Outcome.map_same (skipSegments rest)).symm
        next => simp only

theorem behindColons_suffix (text : List Char) : behindColons text <:+ text := by
  rcases behindColons_cases text with colons | plain
  · exact ⟨[':', ':'], colons.symm⟩
  · exact plain ▸ List.suffix_refl _

theorem traitPath_eq (text : List Char) :
    traitPath text = (skipSegments (behindColons (skipBlank text))).andThen fun _ rest =>
      .done (String.ofList (squeeze
        ((skipBlank text).take ((skipBlank text).length - rest.length)))) rest := by
  unfold traitPath behindColons
  simp only
  generalize skipSegments _ = skipped
  cases skipped <;> rfl

theorem within_traitReader (text : List Char) : (traitReader.read text).Within text := by
  have names := (unrolls_skipSegments.within _).mono
    ((behindColons_suffix _).trans (skipBlank_suffix text))
  simp only [traitReader, traitPath_eq]
  exact names.andThen fun _ _ => .done (List.suffix_refl _)

def itemTurn (reader : ItemReader α) (text : List Char) : Turn α (List α) :=
  if follows [')'] text then .stop (.done [] (skipBlank text))
  else
    match reader.read text with
    | .failed fault place rest => .stop (.failed fault place rest)
    | .done item behind =>
      match skipBlank behind with
      | ',' :: rest => .again item rest
      | rest => .stop (.done [item] rest)

section Items

variable {reader : ItemReader α} (reads : ∀ text, (reader.read text).Within text)

include reads

theorem within_itemTurn (text : List Char) : (itemTurn reader text).Within text := by
  have read := reads text
  unfold itemTurn
  split
  next => exact .stop (.done (skipBlank_suffix text))
  next =>
    split
    next failed =>
      rw [failed] at read
      exact .stop (Outcome.within_failed read)
    next item behind found =>
      rw [found] at read
      have ending := (skipBlank_suffix behind).trans (Outcome.suffix_of_done read)
      have length := reader.read_length found
      have less := skipBlank_length_le behind
      split
      next rest comma =>
        rw [comma] at ending less
        rw [List.length_cons] at less
        exact .again ((List.suffix_cons ',' rest).trans ending) (by omega)
      next => exact .stop (.done ending)

def itemLoop : Loop α (List α) := ⟨itemTurn reader, List.cons, within_itemTurn reads⟩

theorem unrolls_readItems : (itemLoop reads).Unrolls (readItems reader) := by
  intro text
  rw [readItems]
  simp only [itemLoop, itemTurn]
  split
  next => rfl
  next =>
    cases reader.read text with
    | failed => rfl
    | done item behind =>
      simp only
      split
      next comma => simp only [comma]
      next => simp only

theorem within_readList (text : List Char) : (readList reader text).Within text :=
  (within_expect ['('] text).andThen fun _ inner =>
    ((unrolls_readItems reads).within inner).andThen fun _ behind =>
      (within_expect [')'] behind).map _

end Items

def groupLoop : Loop Group (List Group) := itemLoop within_groupReader

def traitLoop : Loop String (List String) := itemLoop within_traitReader

theorem within_readClause (allowed : Bool) (text : List Char) :
    (readClause allowed text).Within text := by
  have keyword : (skipBlank text).drop (leadingName (skipBlank text)).length <:+ text :=
    (List.drop_suffix _ _).trans (skipBlank_suffix text)
  have groups := (within_readList within_groupReader _).mono keyword
  have traits := (within_readList within_traitReader _).mono keyword
  simp only [readClause]
  split
  · exact groups.map _
  · split
    · exact groups.map _
    · split
      · exact traits.map _
      · exact within_failed_start _ text

/-- Behind a clause stands a comma, or nothing but white space, which leaves nothing for the next
turn. -/
def clauseTurn (allowed : Bool) (text : List Char) : Turn Clause (List Clause) :=
  if (skipBlank text).isEmpty then .stop (.done [] (skipBlank text))
  else
    match readClause allowed text with
    | .failed fault place rest => .stop (.failed fault place rest)
    | .done clause behind =>
      if (skipBlank behind).isEmpty then .again clause (skipBlank behind)
      else
        match expect [','] behind with
        | .failed fault place rest => .stop (.failed fault place rest)
        | .done () rest => .again clause rest

theorem within_clauseTurn (allowed : Bool) (text : List Char) :
    (clauseTurn allowed text).Within text := by
  have read := within_readClause allowed text
  unfold clauseTurn
  split
  next => exact .stop (.done (skipBlank_suffix text))
  next =>
    split
    next failed =>
      rw [failed] at read
      exact .stop (Outcome.within_failed read)
    next clause behind found =>
      rw [found] at read
      have ending := Outcome.suffix_of_done read
      have length := readClause_length found
      have comma := within_expect [','] behind
      split
      next =>
        have less := skipBlank_length_le behind
        exact .again ((skipBlank_suffix behind).trans ending) (by omega)
      next =>
        split
        next failed =>
          rw [failed] at comma
          exact .stop (Outcome.within_failed (comma.mono ending))
        next rest expected =>
          rw [expected] at comma
          have less := expect_length (List.cons_ne_nil _ _) expected
          exact .again ((Outcome.suffix_of_done comma).trans ending) (by omega)

def clauseLoop (allowed : Bool) : Loop Clause (List Clause) :=
  ⟨clauseTurn allowed, List.cons, within_clauseTurn allowed⟩

theorem unrolls_readClauses (allowed : Bool) :
    (clauseLoop allowed).Unrolls (readClauses allowed) := by
  intro text
  rw [readClauses_eq]
  simp only [clauseLoop, clauseTurn]
  split
  next blank => rw [List.isEmpty_iff.mp blank]
  next =>
    cases readClause allowed text with
    | failed => rfl
    | done clause behind =>
      simp only [Outcome.andThen]
      split
      next blank =>
        have nothing : readClauses allowed (skipBlank behind) = .done [] [] :=
          readClauses_of_blank (List.isEmpty_iff.mp blank ▸ allBlank_nil)
        simp only [nothing]
        rfl
      next => cases expect [','] behind <;> rfl

end PlatformGate.Options
