import PlatformGate.Proofs.Options.Block

/-! What the permission of traits changes. A text without `traits` clauses is read in the same way
with and without it, and a text that has such a clause is refused without it at the keyword of the
first one. -/

namespace PlatformGate.Options

open Text

variable {α : Type} {Item Plain Special : List Char → α → Prop}

theorem Row.imp (weaker : ∀ s a, Item s a → Plain s a) {t : List Char} {as : List α}
    (h : Row Item t as) : Row Plain t as := by
  induction h with
  | one hs => exact .one (weaker _ _ hs)
  | ended hs hw => exact .ended (weaker _ _ hs) hw
  | cons hs hw hw' _ ih => exact .cons (weaker _ _ hs) hw hw' ih

theorem Series.imp (weaker : ∀ s a, Item s a → Plain s a) {t : List Char} {as : List α}
    (h : Series Item t as) : Series Plain t as := by
  cases h with
  | empty hw => exact .empty hw
  | row hw row hw' => exact .row hw (row.imp weaker) hw'

inductive Lead (Item : List Char → α → Prop) : List Char → List α → Prop
  | blank {w : List Char} : AllBlank w → Lead Item w []
  | cons {w s w' t : List Char} {a : α} {as : List α} : AllBlank w → Item s a → AllBlank w' →
      Lead Item t as → Lead Item (w ++ (s ++ (w' ++ ',' :: t))) (a :: as)

/-- Behind `front` with its plain items there is the special item `a`, of which the text is `s`. -/
structure FirstSpecial (Plain Special : List Char → α → Prop) (t : List Char) (as : List α)
    (front s : List Char) (before : List α) (a : α) : Prop where
  lead : Lead Plain front before
  special : Special s a
  text : ∃ behind, t = front ++ (s ++ behind)
  items : ∃ after, as = before ++ a :: after

theorem Row.plain_or_first (kinds : ∀ s a, Item s a → Plain s a ∨ Special s a) {t : List Char}
    {as : List α} (h : Row Item t as) {w : List Char} (hw : AllBlank w) :
    Row Plain t as ∨
      ∃ front s before a, FirstSpecial Plain Special (w ++ t) as front s before a := by
  induction h generalizing w with
  | one hs =>
    rcases kinds _ _ hs with plain | special
    · exact .inl (.one plain)
    · exact .inr ⟨w, _, [], _, .blank hw, special, ⟨[], by simp⟩, ⟨[], rfl⟩⟩
  | ended hs hv =>
    rcases kinds _ _ hs with plain | special
    · exact .inl (.ended plain hv)
    · exact .inr ⟨w, _, [], _, .blank hw, special, ⟨_, rfl⟩, ⟨[], rfl⟩⟩
  | @cons s v v' t a as hs hv hv' row ih =>
    rcases kinds _ _ hs with plain | special
    · rcases ih hv' with plains | ⟨front, s', before, b, first⟩
      · exact .inl (.cons plain hv hv' plains)
      · obtain ⟨behind, split⟩ := first.text
        obtain ⟨after, items⟩ := first.items
        refine .inr ⟨w ++ (s ++ (v ++ ',' :: front)), s', a :: before, b,
          .cons hw plain hv first.lead, first.special, ⟨behind, ?_⟩, ⟨after, by rw [items]; rfl⟩⟩
        rw [split]
        simp only [List.append_assoc, List.cons_append]
    · exact .inr ⟨w, s, [], a, .blank hw, special, ⟨_, rfl⟩, ⟨as, rfl⟩⟩

theorem Series.plain_or_first (kinds : ∀ s a, Item s a → Plain s a ∨ Special s a) {t : List Char}
    {as : List α} (h : Series Item t as) :
    Series Plain t as ∨
      ∃ front s before a, FirstSpecial Plain Special t as front s before a := by
  cases h with
  | empty hw => exact .inl (.empty hw)
  | @row w t w' as hw row hw' =>
    rcases row.plain_or_first kinds hw with plains | ⟨front, s, before, a, first⟩
    · exact .inl (.row hw plains hw')
    · obtain ⟨behind, split⟩ := first.text
      refine .inr ⟨front, s, before, a, first.lead, first.special, ⟨behind ++ w', ?_⟩, first.items⟩
      rw [← List.append_assoc, split]
      simp only [List.append_assoc]

theorem ClauseText.allow {s : List Char} {clause : Clause} (h : ClauseText false s clause) :
    ClauseText true s clause := by
  cases h with
  | includes hw inner => exact .includes hw inner
  | excludes hw inner => exact .excludes hw inner
  | traits allowed => cases allowed

def TraitsText (text : List Char) (clause : Clause) : Prop :=
  ∃ w inner paths, AllBlank w ∧ text = listing "traits" w inner ∧ clause = .traits paths

theorem ClauseText.plain_or_traits {s : List Char} {clause : Clause}
    (h : ClauseText true s clause) : ClauseText false s clause ∨ TraitsText s clause := by
  cases h with
  | includes hw inner => exact .inl (.includes hw inner)
  | excludes hw inner => exact .inl (.excludes hw inner)
  | @traits w inner paths _ hw => exact .inr ⟨w, inner, paths, hw, rfl, rfl⟩

theorem TraitsText.startsSolid {s : List Char} {clause : Clause} (h : TraitsText s clause) :
    StartsSolid s := by
  obtain ⟨w, inner, paths, -, rfl, -⟩ := h
  exact ⟨'t', rfl, rfl⟩

theorem readClause_of_traitsText {w s : List Char} {clause : Clause} (hw : AllBlank w)
    (h : TraitsText s clause) (rest : List Char) :
    readClause false (w ++ (s ++ rest)) = .failed (.clause false) (s ++ rest) (s ++ rest) := by
  have start := skipBlank_append_solid hw (h.startsSolid.append rest)
  obtain ⟨v, inner, paths, hv, rfl, -⟩ := h
  have keyword : leadingName (listing "traits" v inner ++ rest) = "traits".toList :=
    leadingName_listing (by decide) hv inner rest
  simp only [readClause, start, keyword]
  rw [if_neg (by decide), if_neg (by decide), if_neg (by simp)]

theorem readClauses_of_traitsText {front s : List Char} {before : List Clause} {clause : Clause}
    (lead : Lead (ClauseText false) front before) (h : TraitsText s clause) (rest : List Char) :
    readClauses false (front ++ (s ++ rest)) =
      .failed (.clause false) (s ++ rest) (s ++ rest) := by
  induction lead with
  | @blank w hw =>
    have start := skipBlank_append_solid hw (h.startsSolid.append rest)
    have nonempty := (h.startsSolid.append rest).ne_nil
    rw [readClauses_eq, start, if_neg (by simpa using nonempty), readClause_of_traitsText hw h]
    rfl
  | cons hw plain hw' _ ih =>
    simp only [List.append_assoc, List.cons_append]
    rw [readClauses_of_comma hw plain hw', ih]
    rfl

end PlatformGate.Options

namespace PlatformGate.OptionBlock

open Options

theorem parse_of_parse_without_traits {text : String} {location : Location} {block : OptionBlock}
    (h : parse text false location = .ok block) : parse text true location = .ok block := by
  obtain ⟨clauses, derived, rfl⟩ := parse_eq_ok.mp h
  exact parse_eq_ok.mpr ⟨clauses, derived.imp fun _ _ => ClauseText.allow, rfl⟩

/-- The clauses of a text do not depend on where the text stands. -/
theorem parse_elsewhere {text : String} {traitsAllowed : Bool} {location : Location}
    {block : OptionBlock} (h : parse text traitsAllowed location = .ok block)
    (elsewhere : Location) :
    parse text traitsAllowed elsewhere = .ok { block with location := elsewhere } := by
  obtain ⟨clauses, derived, rfl⟩ := parse_eq_ok.mp h
  exact parse_eq_ok.mpr ⟨clauses, derived, rfl⟩

theorem exists_first_traits {text : String} {location : Location} {block : OptionBlock}
    (h : parse text true location = .ok block) (some : block.traits ≠ []) :
    ∃ clauses front s before clause, BlockText true text.toList clauses ∧
      FirstSpecial (ClauseText false) TraitsText text.toList clauses front s before clause := by
  obtain ⟨clauses, derived, rfl⟩ := parse_eq_ok.mp h
  rcases derived.plain_or_first fun _ _ => ClauseText.plain_or_traits with
    plain | ⟨front, s, before, clause, first⟩
  · exact absurd (traits_eq_nil (parse_eq_ok.mpr ⟨clauses, plain, rfl⟩)) some
  · exact ⟨clauses, front, s, before, clause, derived, first⟩

theorem parse_of_first_traits {text : String} {clauses before : List Clause} {front s : List Char}
    {clause : Clause} (first : FirstSpecial (ClauseText false) TraitsText text.toList clauses
      front s before clause) (location : Location) :
    parse text false location = .error ⟨"expected one of: `include`, `exclude`",
      location.advance text.toList front.length⟩ := by
  obtain ⟨behind, split⟩ := first.text
  have read := readClauses_of_traitsText first.lead first.special behind
  rw [← split] at read
  have place : text.toList.length - (s ++ behind).length = front.length := by
    rw [split, List.length_append]
    omega
  simp only [parse, read, place]
  rfl

end PlatformGate.OptionBlock
