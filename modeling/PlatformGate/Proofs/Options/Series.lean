import PlatformGate.Proofs.Options.Grammar
import PlatformGate.Proofs.Options.Token

/-! Reading a list of items. If a reader of items reads its language in front of whatever separates
items, the reader of lists reads exactly the series of that language between parentheses. -/

namespace PlatformGate.Options

open Text

variable {α : Type} {Item : List Char → α → Prop}

theorem Series.cons {w s w' t : List Char} {a : α} {as : List α} (hw : AllBlank w)
    (hs : Item s a) (hw' : AllBlank w') (ht : Series Item t as) :
    Series Item (w ++ (s ++ (w' ++ ',' :: t))) (a :: as) := by
  cases ht with
  | empty ht =>
    have ended := Series.row hw (Row.ended hs hw') ht
    simpa only [List.append_assoc, List.cons_append, List.nil_append] using ended
  | row hv row hv' =>
    have longer := Series.row hw (Row.cons hs hw' hv row) hv'
    simpa only [List.append_assoc, List.cons_append, List.nil_append] using longer

theorem Series.single {w s w' : List Char} {a : α} (hw : AllBlank w) (hs : Item s a)
    (hw' : AllBlank w') : Series Item (w ++ (s ++ w')) [a] :=
  .row hw (.one hs) hw'

theorem Row.not_mem {c : Char} (comma : c ≠ ',') (solid : isBlank c = false)
    (item : ∀ s a, Item s a → c ∉ s) {t : List Char} {as : List α} (h : Row Item t as) :
    c ∉ t := by
  induction h with
  | one hs => exact item _ _ hs
  | ended hs hw => simp [item _ _ hs, hw.not_mem solid, comma]
  | cons hs hw hw' _ ih => simp [item _ _ hs, hw.not_mem solid, hw'.not_mem solid, comma, ih]

theorem Series.not_mem {c : Char} (comma : c ≠ ',') (solid : isBlank c = false)
    (item : ∀ s a, Item s a → c ∉ s) {t : List Char} {as : List α} (h : Series Item t as) :
    c ∉ t := by
  cases h with
  | empty hw => exact hw.not_mem solid
  | row hw row hw' => simp [hw.not_mem solid, hw'.not_mem solid, row.not_mem comma solid item]

theorem Row.forall_mem {P : α → Prop} (item : ∀ s a, Item s a → P a) {t : List Char} {as : List α}
    (h : Row Item t as) : ∀ a ∈ as, P a := by
  induction h with
  | one hs => simpa using item _ _ hs
  | ended hs => simpa using item _ _ hs
  | cons hs _ _ _ ih => exact List.forall_mem_cons.mpr ⟨item _ _ hs, ih⟩

/-- What holds of all that an item can stand for holds of all items of a series. -/
theorem Series.forall_mem {P : α → Prop} (item : ∀ s a, Item s a → P a) {t : List Char}
    {as : List α} (h : Series Item t as) : ∀ a ∈ as, P a := by
  cases h with
  | empty => simp
  | row _ row => exact row.forall_mem item

/-- The reader of items reads the language in front of a comma or a closing parenthesis. -/
structure Reads (reader : ItemReader α) (Item : List Char → α → Prop) : Prop where
  starts {s : List Char} {a : α} : Item s a → ∃ c, s.head? = some c ∧ isBlank c = false ∧ c ≠ ')'
  sound {text behind rest : List Char} {a : α} {c : Char} :
    reader.read text = .done a behind → skipBlank behind = c :: rest → c = ',' ∨ c = ')' →
    ∃ w s w', AllBlank w ∧ Item s a ∧ AllBlank w' ∧ Separates (s ++ w') c ∧
      text = w ++ (s ++ (w' ++ c :: rest))
  complete {w s w' : List Char} {a : α} {c : Char} :
    AllBlank w → Item s a → AllBlank w' → Separates (s ++ w') c → ∀ rest,
    ∃ behind, reader.read (w ++ (s ++ (w' ++ c :: rest))) = .done a behind ∧
      skipBlank behind = c :: rest

variable {reader : ItemReader α}

theorem readItems_sound (reads : Reads reader Item) {text behind rest : List Char}
    {items : List α} (h : readItems reader text = .done items behind)
    (closed : skipBlank behind = ')' :: rest) :
    ∃ inner, Series Item inner items ∧ Separates inner ')' ∧ text = inner ++ ')' :: rest := by
  -- The turns of the reader: a closing parenthesis, a fault, an item with a comma, the last item.
  fun_induction readItems reader text generalizing items behind with
  | case1 text closing =>
    cases h
    obtain ⟨tail, start⟩ := follows_iff.mp closing
    obtain ⟨w, hw, split⟩ := exists_blank_append text
    rw [start, skipBlank_cons rfl] at closed
    cases closed
    refine ⟨w, .empty hw, separates_of_not_mem (Or.inr rfl) (hw.not_mem rfl), ?_⟩
    rw [← start, ← split]
  | case2 => cases h
  | case3 text _ a behindItem read tail comma ih =>
    obtain ⟨as, inner, rfl⟩ := Outcome.map_eq_done.mp h
    obtain ⟨w, s, w', hw, hs, hw', -, rfl⟩ := reads.sound read comma (Or.inl rfl)
    obtain ⟨t, ht, ends, rfl⟩ := ih inner closed
    refine ⟨w ++ (s ++ (w' ++ ',' :: t)), .cons hw hs hw' ht, ?_, ?_⟩
    · rw [separates_append (by simp), separates_append (by simp), separates_append (by simp)]
      exact ends.cons (by decide)
    · simp only [List.append_assoc, List.cons_append]
  | case4 text _ a behindItem read =>
    cases h
    have start : skipBlank behindItem = ')' :: rest := by
      by_cases empty : skipBlank behindItem = []
      · rw [empty] at closed
        cases closed
      · rwa [skipBlank_of_startsSolid (startsSolid_skipBlank empty)] at closed
    obtain ⟨w, s, w', hw, hs, hw', ends, rfl⟩ := reads.sound read start (Or.inr rfl)
    refine ⟨w ++ (s ++ w'), .single hw hs hw', ?_, ?_⟩
    · obtain ⟨c, hc, -⟩ := reads.starts hs
      have nonempty : s ++ w' ≠ [] := fun e => by
        rw [(List.append_eq_nil_iff.mp e).1] at hc
        cases hc
      rwa [separates_append nonempty]
    · simp only [List.append_assoc]

theorem readItems_of_closing {text : List Char} (closing : follows [')'] text = true) :
    readItems reader text = .done [] (skipBlank text) := by
  rw [readItems, if_pos closing]

theorem readItems_of_comma {text behind rest : List Char} {a : α}
    (isOpen : ¬follows [')'] text = true) (read : reader.read text = .done a behind)
    (comma : skipBlank behind = ',' :: rest) :
    readItems reader text = (readItems reader rest).map (a :: ·) := by
  rw [readItems, if_neg isOpen]
  split
  next failed => rw [read] at failed; cases failed
  next a' behind' read' =>
    cases read.symm.trans read'
    split
    next tail comma' =>
      cases comma.symm.trans comma'
      rfl
    next other => exact absurd comma (other rest)

theorem readItems_of_last {text behind : List Char} {a : α}
    (isOpen : ¬follows [')'] text = true) (read : reader.read text = .done a behind)
    (last : ∀ rest, skipBlank behind ≠ ',' :: rest) :
    readItems reader text = .done [a] (skipBlank behind) := by
  rw [readItems, if_neg isOpen]
  split
  next failed => rw [read] at failed; cases failed
  next a' behind' read' =>
    cases read.symm.trans read'
    split
    next tail comma => exact absurd comma (last tail)
    next => rfl

theorem Reads.not_follows (reads : Reads reader Item) {w s : List Char} {a : α} (hw : AllBlank w)
    (hs : Item s a) (t : List Char) : ¬follows [')'] (w ++ (s ++ t)) = true := by
  intro closing
  obtain ⟨c, hc, solid, other⟩ := reads.starts hs
  obtain ⟨tail, start⟩ := follows_iff.mp closing
  rw [skipBlank_append_solid hw (StartsSolid.append ⟨c, hc, solid⟩ t)] at start
  have head : (s ++ t).head? = some ')' := by rw [start]; rfl
  rw [List.head?_append, hc] at head
  exact other (Option.some.inj head)

theorem readItems_row (reads : Reads reader Item) {w t w' : List Char} {as : List α}
    (hw : AllBlank w) (row : Row Item t as) (hw' : AllBlank w') (ends : Separates (t ++ w') ')')
    (rest : List Char) :
    ∃ behind, readItems reader (w ++ (t ++ (w' ++ ')' :: rest))) = .done as behind ∧
      skipBlank behind = ')' :: rest := by
  have comma : ∀ s, Separates s ',' := fun s => Or.inl rfl
  -- The white space in front belongs to the first item, so it changes from item to item.
  induction row generalizing w with
  | one hs =>
    obtain ⟨behind, read, start⟩ := reads.complete hw hs hw' ends rest
    refine ⟨_, readItems_of_last (reads.not_follows hw hs _) read (by simp [start]), ?_⟩
    rw [start]
    exact skipBlank_cons rfl rest
  | @ended s v a hs hv =>
    obtain ⟨behind, read, start⟩ := reads.complete hw hs hv (comma _) (w' ++ ')' :: rest)
    have nothing : readItems reader (w' ++ ')' :: rest) =
        .done [] (skipBlank (w' ++ ')' :: rest)) :=
      readItems_of_closing (follows_iff.mpr ⟨rest, skipBlank_append_cons hw' rfl rest⟩)
    refine ⟨')' :: rest, ?_, skipBlank_cons rfl rest⟩
    rw [List.append_assoc, List.append_assoc, List.singleton_append,
      readItems_of_comma (reads.not_follows hw hs _) read start, nothing,
      skipBlank_append_cons hw' rfl]
    rfl
  | @cons s v v' t a as hs hv hv' row ih =>
    have shift : s ++ (v ++ ',' :: (v' ++ t)) ++ w' = (s ++ (v ++ ',' :: v')) ++ (t ++ w') := by
      simp only [List.append_assoc, List.cons_append]
    rw [shift] at ends
    obtain ⟨behind, read, start⟩ :=
      reads.complete hw hs hv (comma _) (v' ++ (t ++ (w' ++ ')' :: rest)))
    obtain ⟨last, inner, closed⟩ := ih hv' ends.of_append
    refine ⟨last, ?_, closed⟩
    simp only [List.append_assoc, List.cons_append]
    rw [readItems_of_comma (reads.not_follows hw hs _) read start, inner]
    rfl

theorem readItems_complete (reads : Reads reader Item) {inner : List Char} {items : List α}
    (h : Series Item inner items) (ends : Separates inner ')') (rest : List Char) :
    ∃ behind, readItems reader (inner ++ ')' :: rest) = .done items behind ∧
      skipBlank behind = ')' :: rest := by
  cases h with
  | @empty w hw =>
    have close := skipBlank_append_cons hw (c := ')') rfl rest
    refine ⟨_, readItems_of_closing (follows_iff.mpr ⟨rest, close⟩), ?_⟩
    rw [close]
    exact skipBlank_cons rfl rest
  | row hw row hw' =>
    obtain ⟨behind, read, closed⟩ := readItems_row reads hw row hw' ends.of_append rest
    refine ⟨behind, ?_, closed⟩
    rwa [List.append_assoc, List.append_assoc]

theorem readList_eq_done (reads : Reads reader Item) {text rest : List Char} {items : List α} :
    readList reader text = .done items rest ↔
      ∃ w inner, AllBlank w ∧ Series Item inner items ∧ Separates inner ')' ∧
        text = w ++ '(' :: (inner ++ ')' :: rest) := by
  constructor
  · intro h
    obtain ⟨_, body, opened, h⟩ := Outcome.andThen_eq_done.mp h
    obtain ⟨_, behind, read, h⟩ := Outcome.andThen_eq_done.mp h
    obtain ⟨_, closed, rfl⟩ := Outcome.map_eq_done.mp h
    obtain ⟨w, hw, split⟩ := exists_blank_append text
    obtain ⟨inner, series, ends, rfl⟩ := readItems_sound reads read (expect_eq_done.mp closed)
    rw [expect_eq_done.mp opened] at split
    exact ⟨w, inner, hw, series, ends, split⟩
  · rintro ⟨w, inner, hw, series, ends, rfl⟩
    obtain ⟨behind, read, closed⟩ := readItems_complete reads series ends rest
    have opened : skipBlank (w ++ '(' :: (inner ++ ')' :: rest)) = '(' :: (inner ++ ')' :: rest) :=
      skipBlank_append_cons hw rfl _
    exact Outcome.andThen_eq_done.mpr ⟨(), _, expect_eq_done.mpr opened,
      Outcome.andThen_eq_done.mpr ⟨items, behind, read,
        Outcome.map_eq_done.mpr ⟨(), expect_eq_done.mpr closed, rfl⟩⟩⟩

theorem ofKeyword?_eq_some {keyword : String} {group : Group} :
    Group.ofKeyword? keyword = some group ↔ keyword = group.keyword := by
  constructor
  · intro h
    have same := List.find?_some h
    exact (beq_iff_eq.mp same).symm
  · rintro rfl
    cases group <;> decide

theorem isName_keyword (group : Group) : isName group.keyword.toList = true := by
  cases group <;> decide

theorem minus_not_mem_name {name : List Char} (h : isName name = true) : '-' ∉ name := fun hc => by
  cases isNamePart_of_mem h '-' hc

theorem readGroup_eq_done {text behind : List Char} {group : Group} :
    readGroup text = .done group behind ↔
      ∃ w, AllBlank w ∧ EndsName behind ∧ text = w ++ (group.keyword.toList ++ behind) := by
  have name := isName_keyword group
  constructor
  · intro h
    obtain ⟨w, hw, split⟩ := exists_blank_append text
    have whole := leadingName_append_drop (skipBlank text)
    simp only [readGroup] at h
    split at h
    next found =>
      cases h
      have leading : leadingName (skipBlank text) = group.keyword.toList := by
        rw [← ofKeyword?_eq_some.mp found, String.toList_ofList]
      have nonempty : leadingName (skipBlank text) ≠ [] := by
        rw [leading]
        exact (startsSolid_name name).ne_nil
      refine ⟨w, hw, endsName_drop_leadingName nonempty, ?_⟩
      rw [← leading, whole]
      exact split
    next => cases h
  · rintro ⟨w, hw, ends, rfl⟩
    have start := skipBlank_append_solid hw ((startsSolid_name name).append behind)
    simp only [readGroup, start, leadingName_append name ends, String.ofList_toList,
      ofKeyword?_eq_some.mpr rfl, List.drop_left]

theorem reads_groups : Reads groupReader GroupText where
  starts {s group} h := by
    obtain ⟨c, hc, solid⟩ := startsSolid_name (isName_keyword group)
    rw [GroupText] at h
    refine ⟨c, h ▸ hc, solid, ?_⟩
    rintro rfl
    cases isNamePart_of_mem (isName_keyword group) ')' (List.mem_of_head? hc)
  sound {text behind rest group c} h start hc := by
    obtain ⟨w, hw, -, split⟩ := readGroup_eq_done.mp h
    obtain ⟨w', hw', split'⟩ := exists_blank_append behind
    rw [split', start] at split
    refine ⟨w, group.keyword.toList, w', hw, rfl, hw', ?_, split⟩
    exact separates_append_blank hc
      (fun e => minus_not_mem_name (isName_keyword group) (List.mem_of_getLast? e)) hw'
  complete {w s w' group c} hw hs hw' ends rest := by
    rw [hs]
    exact ⟨_, readGroup_eq_done.mpr ⟨w, hw, endsName_of_separates hw' ends rest, rfl⟩,
      skipBlank_append_cons hw' ends.isBlank rest⟩

end PlatformGate.Options
