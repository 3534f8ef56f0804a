import PlatformGate.Proofs.Options.Series

/-! Reading a trait path. In front of what separates items, the reader takes exactly the paths of
the grammar, and keeps each with its runs of white space folded. -/

namespace PlatformGate.Options

open Text

theorem Applied.startsSolid {kind : BracketKind} {s : List Char} (h : Applied kind s) :
    StartsSolid s := by
  obtain ⟨name, w, a, hn, -, -, rfl⟩ := h
  exact (startsSolid_name hn).append _

theorem Applied.endsSolid {kind : BracketKind} {s : List Char} (h : Applied kind s) :
    EndsSolid s := by
  obtain ⟨name, w, a, -, -, ha, rfl⟩ := h
  exact (ha.endsSolid.append w).append name

theorem Applied.getLast?_ne {kind : BracketKind} {s : List Char} (h : Applied kind s) :
    s.getLast? ≠ some '-' := by
  obtain ⟨name, w, a, -, -, ha, rfl⟩ := h
  rw [List.getLast?_append, List.getLast?_append, BracketKind.getLast?_of_skip ha.2]
  simpa using kind.closing_ne_minus

theorem SegmentText.startsSolid {s : List Char} (h : SegmentText s) : StartsSolid s :=
  h.elim startsSolid_name Applied.startsSolid

theorem SegmentText.endsSolid {s : List Char} (h : SegmentText s) : EndsSolid s :=
  h.elim endsSolid_name Applied.endsSolid

theorem SegmentText.getLast?_ne {s : List Char} (h : SegmentText s) : s.getLast? ≠ some '-' :=
  h.elim (fun hn e => minus_not_mem_name hn (List.mem_of_getLast? e)) Applied.getLast?_ne

theorem Segments.startsSolid {s : List Char} (h : Segments s) : StartsSolid s := by
  cases h with
  | single hs => exact hs.startsSolid
  | call hs => exact hs.startsSolid
  | returning hs => exact hs.startsSolid.append _
  | joined hs => exact hs.startsSolid.append _

theorem Segments.endsSolid {s : List Char} (h : Segments s) : EndsSolid s := by
  induction h with
  | single hs => exact hs.endsSolid
  | call hs => exact hs.endsSolid
  | @returning s w w' r _ _ _ hr =>
    exact (((hr.ends.append w').append ['-', '>']).append w).append s
  | @joined s w w' t _ _ _ _ ih =>
    exact (((ih.append w').append [':', ':']).append w).append s

theorem PathText.startsSolid {s : List Char} (h : PathText s) : StartsSolid s := by
  cases h with
  | relative hs => exact hs.startsSolid
  | absolute => exact startsSolid_cons rfl _

theorem PathText.endsSolid {s : List Char} (h : PathText s) : EndsSolid s := by
  cases h with
  | relative hs => exact hs.endsSolid
  | @absolute w s _ hs => exact (hs.endsSolid.append w).append [':', ':']

def BeginsName (text : List Char) : Prop := ∃ c, text.head? = some c ∧ isNamePart c = true

theorem BeginsName.append {s : List Char} (h : BeginsName s) (t : List Char) :
    BeginsName (s ++ t) := by
  obtain ⟨c, hc, part⟩ := h
  exact ⟨c, by simp [List.head?_append, hc], part⟩

theorem beginsName_name {name : List Char} (h : isName name = true) : BeginsName name := by
  obtain ⟨c, hc, -⟩ := startsSolid_name h
  exact ⟨c, hc, isNamePart_of_mem h c (List.mem_of_head? hc)⟩

theorem Applied.beginsName {kind : BracketKind} {s : List Char} (h : Applied kind s) :
    BeginsName s := by
  obtain ⟨name, w, a, hn, -, -, rfl⟩ := h
  exact (beginsName_name hn).append _

theorem Segments.beginsName {s : List Char} (h : Segments s) : BeginsName s := by
  cases h with
  | single hs => exact hs.elim beginsName_name Applied.beginsName
  | call hs => exact hs.beginsName
  | returning hs => exact hs.beginsName.append _
  | joined hs => exact (hs.elim beginsName_name Applied.beginsName).append _

theorem skipArguments_true {text behind : List Char} (h : skipArguments text = .done true behind) :
    behind = skipBlank text ∨
      ∃ w a, AllBlank w ∧ BracketKind.angle.Encloses a ∧ text = w ++ (a ++ behind) := by
  obtain ⟨w, hw, split⟩ := exists_blank_append text
  unfold skipArguments at h
  split at h
  next tail start =>
    split at h
    next rest skipped =>
      cases h
      rw [BracketKind.skipAngles_eq] at skipped
      obtain ⟨a, ha, whole⟩ := BracketKind.exists_encloses skipped
      exact Or.inr ⟨w, a, hw, ha, by rw [split, start, ← whole]; rfl⟩
    next => cases h
  next =>
    split at h
    next => cases h
    next =>
      split at h
      next =>
        obtain ⟨_, -, stop⟩ := Outcome.map_eq_done.mp h
        cases stop
      next => cases h
  next =>
    cases h
    exact Or.inl rfl

theorem skipArguments_false {text behind : List Char}
    (h : skipArguments text = .done false behind) :
    ∃ w a tail, AllBlank w ∧ BracketKind.parenthesis.Encloses a ∧ text = w ++ (a ++ tail) ∧
      (behind = skipBlank tail ∨ ∃ result, skipBlank tail = '-' :: '>' :: result ∧
        skipReturnType (some '>') result = .done () behind) := by
  obtain ⟨w, hw, split⟩ := exists_blank_append text
  unfold skipArguments at h
  split at h
  next => split at h <;> cases h
  next rest start =>
    split at h
    next => cases h
    next tail skipped =>
      rw [BracketKind.skipParentheses_eq none] at skipped
      obtain ⟨a, ha, whole⟩ := BracketKind.exists_encloses skipped
      refine ⟨w, a, tail, hw, ha, by rw [split, start, ← whole]; rfl, ?_⟩
      split at h
      next result arrow =>
        obtain ⟨_, returned, -⟩ := Outcome.map_eq_done.mp h
        exact Or.inr ⟨result, arrow, returned⟩
      next =>
        cases h
        exact Or.inl rfl
  next => cases h

theorem segment_sound {text name behindName behind : List Char}
    (named : takeName "trait path" text = .done name behindName)
    (skipped : skipArguments behindName = .done true behind) :
    ∃ w s w', AllBlank w ∧ SegmentText s ∧ AllBlank w' ∧
      text = w ++ (s ++ (w' ++ skipBlank behind)) := by
  obtain ⟨w, hw, hn, rfl⟩ := takeName_sound named
  rcases skipArguments_true skipped with rfl | ⟨v, a, hv, ha, rfl⟩
  · obtain ⟨w', hw', split⟩ := exists_blank_append behindName
    rw [skipBlank_skipBlank]
    exact ⟨w, name, w', hw, Or.inl hn, hw', congrArg (fun x => w ++ (name ++ x)) split⟩
  · obtain ⟨w', hw', split⟩ := exists_blank_append behind
    refine ⟨w, name ++ (v ++ a), w', hw, Or.inr ⟨name, v, a, hn, hv, ha, rfl⟩, hw', ?_⟩
    rw [← split]
    simp only [List.append_assoc]

theorem skipSegments_sound {text behind rest : List Char} {c : Char}
    (h : skipSegments text = .done () behind) (next : skipBlank behind = c :: rest)
    (hc : c = ',' ∨ c = ')') :
    behind = c :: rest ∧ ∃ w s w', AllBlank w ∧ Segments s ∧ AllBlank w' ∧
      Separates (s ++ w') c ∧ text = w ++ (s ++ (w' ++ c :: rest)) := by
  fun_induction skipSegments text with
  | case1 => cases h
  | case2 => cases h
  | case3 text name behindName named stop skipped =>
    cases h
    obtain ⟨w, hw, hn, rfl⟩ := takeName_sound named
    obtain ⟨v, a, tail, hv, ha, rfl, done⟩ := skipArguments_false skipped
    have applied : Applied .parenthesis (name ++ (v ++ a)) := ⟨name, v, a, hn, hv, ha, rfl⟩
    obtain ⟨u, hu, split⟩ := exists_blank_append tail
    -- The path ends behind the parenthesis, or else where its return type does.
    rcases done with rfl | ⟨result, arrow, returned⟩
    · rw [skipBlank_skipBlank] at next
      refine ⟨next, w, name ++ (v ++ a), u, hw, .call applied, hu,
        separates_append_blank hc applied.getLast?_ne hu, ?_⟩
      rw [← next, ← split]
      simp only [List.append_assoc]
    · obtain ⟨whole, w₁, r, w₂, hw₁, hr, hw₂, ends, rfl⟩ := skipReturnType_sound returned next hc
      refine ⟨whole, w, name ++ (v ++ a) ++ (u ++ '-' :: '>' :: (w₁ ++ r)), w₂, hw,
        .returning applied hu hw₁ hr, hw₂, ?_, ?_⟩
      · exact (separates_joint (hr.starts.append w₂).ne_nil).mpr ends
      · rw [split, arrow]
        simp only [List.append_assoc, List.cons_append]
  | case4 text name behindName named behindSegment skipped tail joined ih =>
    obtain ⟨w, s, w', hw, hs, hw', rfl⟩ := segment_sound named skipped
    obtain ⟨whole, v, t, v', hv, ht, hv', ends, rfl⟩ := ih h
    refine ⟨whole, w, s ++ (w' ++ ':' :: ':' :: (v ++ t)), v', hw, .joined hs hw' hv ht, hv',
      ?_, ?_⟩
    · exact (separates_joint (ht.startsSolid.append v').ne_nil).mpr ends
    · rw [joined]
      simp only [List.append_assoc, List.cons_append]
  | case5 text name behindName named behindSegment skipped =>
    cases h
    obtain ⟨w, s, w', hw, hs, hw', rfl⟩ := segment_sound named skipped
    rw [skipBlank_skipBlank] at next
    exact ⟨next, w, s, w', hw, .single hs, hw', separates_append_blank hc hs.getLast?_ne hw',
      by rw [next]⟩

theorem BracketKind.Encloses.eq_cons {kind : BracketKind} {a : List Char} (h : kind.Encloses a) :
    ∃ inner, a = kind.opening :: inner := by
  obtain ⟨head, -⟩ := h
  cases a with
  | nil => cases head
  | cons c inner =>
    cases head
    exact ⟨inner, rfl⟩

theorem skipArguments_of_other {text rest : List Char} {d : Char}
    (start : skipBlank text = d :: rest) (notAngle : d ≠ '<') (notParenthesis : d ≠ '(') :
    skipArguments text = .done true (d :: rest) := by
  unfold skipArguments
  rw [start]
  split
  next opening => exact absurd (List.cons.inj opening).1 notAngle
  next opening => exact absurd (List.cons.inj opening).1 notParenthesis
  next => rfl

theorem skipArguments_of_angle {w a : List Char} (hw : AllBlank w)
    (ha : BracketKind.angle.Encloses a) (rest : List Char) :
    skipArguments (w ++ (a ++ rest)) = .done true rest := by
  have start := skipBlank_append_solid hw (ha.startsSolid.append rest)
  have skipped : skipAngles none 0 (a ++ rest) = some rest := by
    rw [BracketKind.skipAngles_eq, BracketKind.skip_append ha.2, List.nil_append]
  obtain ⟨inner, rfl⟩ := ha.eq_cons
  unfold skipArguments
  rw [start]
  simp only [BracketKind.opening, List.cons_append] at skipped ⊢
  rw [skipped]

def skipResult (tail : List Char) : Outcome Bool :=
  match skipBlank tail with
  | '-' :: '>' :: result => (skipReturnType (some '>') result).map fun _ => false
  | other => .done false other

section Call

variable {w a tail : List Char} (hw : AllBlank w) (ha : BracketKind.parenthesis.Encloses a)

include hw ha

theorem skipArguments_of_parenthesis : skipArguments (w ++ (a ++ tail)) = skipResult tail := by
  have start := skipBlank_append_solid hw (ha.startsSolid.append tail)
  have skipped : skipParentheses 0 (a ++ tail) = some tail := by
    rw [BracketKind.skipParentheses_eq none, BracketKind.skip_append ha.2, List.nil_append]
  obtain ⟨inner, rfl⟩ := ha.eq_cons
  unfold skipArguments
  rw [start]
  simp only [BracketKind.opening, List.cons_append] at skipped ⊢
  rw [skipped]
  rfl

theorem skipArguments_of_call {rest : List Char} {d : Char} (start : skipBlank tail = d :: rest)
    (notArrow : d ≠ '-') : skipArguments (w ++ (a ++ tail)) = .done false (d :: rest) := by
  rw [skipArguments_of_parenthesis hw ha, skipResult, start]
  split
  next arrow => exact absurd (List.cons.inj arrow).1 notArrow
  next => rfl

theorem skipArguments_of_returning {result behind : List Char}
    (arrow : skipBlank tail = '-' :: '>' :: result)
    (returned : skipReturnType (some '>') result = .done () behind) :
    skipArguments (w ++ (a ++ tail)) = .done false behind := by
  rw [skipArguments_of_parenthesis hw ha, skipResult, arrow]
  exact Outcome.map_eq_done.mpr ⟨(), returned, rfl⟩

end Call

theorem skipSegments_eq (text : List Char) :
    skipSegments text = (takeName "trait path" text).andThen fun _ behindName =>
      (skipArguments behindName).andThen fun more behind =>
        if more then
          match skipBlank behind with
          | ':' :: ':' :: rest => skipSegments rest
          | rest => .done () rest
        else .done () behind := by
  rw [skipSegments]
  split
  next named => rw [named]; rfl
  next named =>
    rw [named]
    split
    next skipped => simp only [Outcome.andThen, skipped]
    next skipped => simp [Outcome.andThen, skipped]
    next skipped =>
      simp only [Outcome.andThen, skipped, if_true]
      split <;> simp_all

section Segment

variable {text name behindName behind rest : List Char}
  (named : takeName "trait path" text = .done name behindName)

include named

theorem skipSegments_of_call (skipped : skipArguments behindName = .done false behind) :
    skipSegments text = .done () behind := by
  rw [skipSegments_eq, named]
  simp [Outcome.andThen, skipped]

theorem skipSegments_of_joined (skipped : skipArguments behindName = .done true behind)
    (joined : skipBlank behind = ':' :: ':' :: rest) :
    skipSegments text = skipSegments rest := by
  rw [skipSegments_eq, named]
  simp [Outcome.andThen, skipped, joined]

theorem skipSegments_of_end {d : Char} (skipped : skipArguments behindName = .done true behind)
    (start : skipBlank behind = d :: rest) (notColon : d ≠ ':') :
    skipSegments text = .done () (d :: rest) := by
  rw [skipSegments_eq, named]
  simp only [Outcome.andThen, skipped, start, if_true]
  split
  next joined => exact absurd (List.cons.inj joined).1 notColon
  next => rfl

end Segment

theorem Applied.named {kind : BracketKind} {s : List Char} (h : Applied kind s) {w : List Char}
    (hw : AllBlank w) (rest : List Char) :
    ∃ name v a, AllBlank v ∧ kind.Encloses a ∧
      takeName "trait path" (w ++ (s ++ rest)) = .done name (v ++ (a ++ rest)) := by
  obtain ⟨name, v, a, hn, hv, ha, rfl⟩ := h
  refine ⟨name, v, a, hv, ha, ?_⟩
  obtain ⟨inner, rfl⟩ := ha.eq_cons
  have opening : isNamePart kind.opening = false := by cases kind <;> decide
  rw [List.append_assoc, List.append_assoc]
  exact takeName_complete _ hw hn (endsName_append_blank hv (endsName_cons opening _))

theorem segment_complete {w s w' : List Char} {d : Char} (hw : AllBlank w) (hs : SegmentText s)
    (hw' : AllBlank w') (hd : d = ':' ∨ d = ',' ∨ d = ')') (rest : List Char) :
    ∃ name behindName behind,
      takeName "trait path" (w ++ (s ++ (w' ++ d :: rest))) = .done name behindName ∧
        skipArguments behindName = .done true behind ∧ skipBlank behind = d :: rest := by
  have solid : isBlank d = false := by rcases hd with rfl | rfl | rfl <;> rfl
  have start := skipBlank_append_cons hw' solid rest
  rcases hs with hn | applied
  · have ends : isNamePart d = false := by rcases hd with rfl | rfl | rfl <;> decide
    refine ⟨s, w' ++ d :: rest, d :: rest,
      takeName_complete _ hw hn (endsName_append_blank hw' (endsName_cons ends rest)),
      skipArguments_of_other start ?_ ?_, skipBlank_cons solid rest⟩
    all_goals rcases hd with rfl | rfl | rfl <;> decide
  · obtain ⟨name, v, a, hv, ha, named⟩ := applied.named hw (w' ++ d :: rest)
    exact ⟨name, _, _, named, skipArguments_of_angle hv ha _, start⟩

theorem skipSegments_complete {w s w' : List Char} {c : Char} (hw : AllBlank w) (hs : Segments s)
    (hw' : AllBlank w') (ends : Separates (s ++ w') c) (rest : List Char) :
    skipSegments (w ++ (s ++ (w' ++ c :: rest))) = .done () (c :: rest) := by
  have close := skipBlank_append_cons hw' ends.isBlank rest
  have separator : c = ',' ∨ c = ')' := ends.imp_right And.left
  induction hs generalizing w with
  | single hs =>
    obtain ⟨name, behindName, behind, named, skipped, start⟩ :=
      segment_complete hw hs hw' (Or.inr separator) rest
    refine skipSegments_of_end named skipped start ?_
    rcases separator with rfl | rfl <;> decide
  | call applied =>
    obtain ⟨name, v, a, hv, ha, named⟩ := applied.named hw (w' ++ c :: rest)
    refine skipSegments_of_call named (skipArguments_of_call hv ha close ?_)
    rcases separator with rfl | rfl <;> decide
  | @returning s u u' r applied hu hu' hr =>
    have last := (separates_joint (hr.starts.append w').ne_nil).mp ends
    have returned := skipReturnType_complete hu' hr hw' last rest
    simp only [List.append_assoc, List.cons_append]
    generalize u' ++ (r ++ (w' ++ c :: rest)) = result at returned ⊢
    have arrow : skipBlank (u ++ '-' :: '>' :: result) = '-' :: '>' :: result :=
      skipBlank_append_cons hu rfl _
    obtain ⟨name, v, a, hv, ha, named⟩ := applied.named hw (u ++ '-' :: '>' :: result)
    exact skipSegments_of_call named (skipArguments_of_returning hv ha arrow returned)
  | @joined s u u' t hs hu hu' ht ih =>
    have inner := ih hu' ((separates_joint (ht.startsSolid.append w').ne_nil).mp ends)
    simp only [List.append_assoc, List.cons_append]
    obtain ⟨name, behindName, behind, named, skipped, joined⟩ :=
      segment_complete hw hs hu (Or.inl rfl) (':' :: (u' ++ (t ++ (w' ++ c :: rest))))
    rw [skipSegments_of_joined named skipped joined, inner]

def behindColons : List Char → List Char
  | ':' :: ':' :: rest => rest
  | text => text

theorem behindColons_segments {s : List Char} (h : Segments s) (t : List Char) :
    behindColons (s ++ t) = s ++ t := by
  obtain ⟨c, hc, part⟩ := h.beginsName
  cases s with
  | nil => cases hc
  | cons d s =>
    cases hc
    rw [List.cons_append]
    unfold behindColons
    split
    next colons =>
      rw [(List.cons.inj colons).1] at part
      cases part
    next => rfl

theorem behindColons_cases (text : List Char) :
    text = ':' :: ':' :: behindColons text ∨ text = behindColons text := by
  unfold behindColons
  split
  · exact Or.inl rfl
  · exact Or.inr rfl

theorem traitPath_eq_done {text behind : List Char} {path : String} :
    traitPath text = .done path behind ↔
      skipSegments (behindColons (skipBlank text)) = .done () behind ∧
        path = String.ofList (squeeze
          ((skipBlank text).take ((skipBlank text).length - behind.length))) := by
  unfold traitPath behindColons
  simp only
  generalize skipSegments _ = skipped
  cases skipped with
  | failed fault place rest => simp
  | done value rest =>
    constructor
    · intro h
      cases h
      exact ⟨rfl, rfl⟩
    · rintro ⟨h, rfl⟩
      cases h
      rfl

theorem squeeze_take {s w : List Char} (hs : PathText s) (hw : AllBlank w) (rest : List Char) :
    squeeze ((s ++ (w ++ rest)).take ((s ++ (w ++ rest)).length - rest.length)) =
      foldRuns false s := by
  rw [← List.append_assoc, List.length_append, Nat.add_sub_cancel, List.take_left,
    squeeze_append hs.startsSolid hs.endsSolid hw]

/-- Trait paths are read as the paths of the grammar, with their white space folded. -/
theorem reads_traits : Reads traitReader TraitText where
  starts {s path} h := by
    obtain ⟨hs, -⟩ := h
    cases hs with
    | relative hs =>
      obtain ⟨c, hc, part⟩ := hs.beginsName
      refine ⟨c, hc, isBlank_of_isNamePart part, ?_⟩
      rintro rfl
      cases part
    | absolute => exact ⟨':', rfl, rfl, by decide⟩
  sound {text behind rest path c} h start hc := by
    obtain ⟨skipped, rfl⟩ := traitPath_eq_done.mp h
    obtain ⟨rfl, w, s, w', hw, hs, hw', ends, names⟩ := skipSegments_sound skipped start hc
    obtain ⟨v, hv, split⟩ := exists_blank_append text
    -- White space behind leading colons is part of the path, but in front of a name it is none.
    rcases behindColons_cases (skipBlank text) with colons | plain
    · have path : skipBlank text = ':' :: ':' :: (w ++ s) ++ (w' ++ c :: rest) := by
        rw [colons, names]
        simp only [List.append_assoc, List.cons_append]
      have isPath := PathText.absolute hw hs
      refine ⟨v, _, w', hv, ⟨isPath, ?_⟩, hw', ?_, by rw [← path, ← split]⟩
      · rw [path, squeeze_take isPath hw']
      · exact (separates_joint (s := []) (w := []) (hs.startsSolid.append w').ne_nil).mpr ends
    · rw [← plain] at names
      have nonempty : skipBlank text ≠ [] := by
        rw [names]
        simp
      have solid := startsSolid_skipBlank nonempty
      rw [names] at solid
      rw [hw.eq_nil solid, List.nil_append] at names
      have isPath := PathText.relative hs
      refine ⟨v, s, w', hv, ⟨isPath, ?_⟩, hw', ends, by rw [← names, ← split]⟩
      rw [names, squeeze_take isPath hw']
  complete {w s w' path c} hw hs hw' ends rest := by
    obtain ⟨hs, rfl⟩ := hs
    have text := skipBlank_append_solid hw (hs.startsSolid.append (w' ++ c :: rest))
    refine ⟨c :: rest, traitPath_eq_done.mpr ⟨?_, ?_⟩,
      skipBlank_cons ends.isBlank rest⟩
    · rw [text]
      cases hs with
      | relative hs =>
        rw [behindColons_segments hs]
        exact skipSegments_complete allBlank_nil hs hw' ends rest
      | @absolute v s hv hs =>
        have last := (separates_joint (s := []) (w := []) (hs.startsSolid.append w').ne_nil).mp ends
        have inner := skipSegments_complete hv hs hw' last rest
        rwa [← List.append_assoc] at inner
    · rw [text, squeeze_take hs hw']

end PlatformGate.Options
