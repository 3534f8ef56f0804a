import PlatformGate.Proofs.Location
import PlatformGate.Proofs.Options.Block

/-! Where an option text is refused. Without traits the place is that of the first token with which
no accepted text can go on: what stands in front of it is the beginning of an accepted text, and
what stands behind it plays no part. Where the text itself stands only moves the place. -/

namespace PlatformGate.Options

open Text

namespace Outcome

variable {α β : Type}

theorem map_eq_failed {f : α → β} {o : Outcome α} {fault : Fault} {place rest : List Char} :
    o.map f = failed fault place rest ↔ o = failed fault place rest := by
  cases o <;> simp [map]

theorem andThen_eq_failed {o : Outcome α} {next : α → List Char → Outcome β} {fault : Fault}
    {place rest : List Char} :
    o.andThen next = failed fault place rest ↔ o = failed fault place rest ∨
      ∃ a middle, o = done a middle ∧ next a middle = failed fault place rest := by
  cases o with
  | done a behind =>
    constructor
    · exact fun h => .inr ⟨a, behind, rfl, h⟩
    · rintro (h | ⟨_, _, h, failed⟩)
      · cases h
      · cases h; exact failed
  | failed => simp [andThen]

end Outcome

/-- The token that the text begins with: the longest name, or else the first character. The end of
the text has no token. -/
def leadingToken (text : List Char) : List Char :=
  if leadingName text = [] then text.take 1 else leadingName text

def SameToken (text other : List Char) : Prop := leadingToken text = leadingToken other

instance (text other : List Char) : Decidable (SameToken text other) :=
  inferInstanceAs (Decidable (leadingToken text = leadingToken other))

theorem head?_leadingToken (text : List Char) : (leadingToken text).head? = text.head? := by
  cases text with
  | nil => rfl
  | cons c rest => by_cases start : isNameStart c = true <;> simp [leadingToken, leadingName, start]

theorem leadingName_leadingToken (text : List Char) :
    leadingName (leadingToken text) = leadingName text := by
  unfold leadingToken
  split
  next unnamed =>
    cases text with
    | nil => rfl
    | cons c rest =>
      have start : ¬isNameStart c = true := fun start => by simp [leadingName, start] at unnamed
      simp [leadingName, start]
  next named =>
    have ends : EndsName [] := by simp [EndsName]
    have whole := leadingName_append (isName_leadingName named) ends
    rwa [List.append_nil] at whole

def BeginsToken (text : List Char) : Prop := ∀ c, text.head? = some c → isBlank c = false

theorem BeginsToken.skipBlank {text : List Char} (h : BeginsToken text) : skipBlank text = text := by
  cases text with
  | nil => rfl
  | cons c rest => exact skipBlank_cons (h c rfl) rest

theorem beginsToken_skipBlank (text : List Char) : BeginsToken (skipBlank text) := by
  by_cases empty : Text.skipBlank text = []
  · simp [BeginsToken, empty]
  · obtain ⟨c, hc, solid⟩ := startsSolid_skipBlank empty
    intro d hd
    cases hc.symm.trans hd
    exact solid

namespace SameToken

variable {text other front : List Char}

theorem head? (same : SameToken text other) : text.head? = other.head? := by
  rw [← head?_leadingToken, ← head?_leadingToken other, same]

theorem leadingName (same : SameToken text other) : leadingName text = leadingName other := by
  rw [← leadingName_leadingToken, ← leadingName_leadingToken other, same]

theorem beginsToken (same : SameToken text other) (h : BeginsToken other) : BeginsToken text := by
  rwa [BeginsToken, same.head?]

theorem skipBlank_append (same : SameToken text other) (h : BeginsToken other)
    (blank : AllBlank front) : skipBlank (front ++ text) = text := by
  rw [Text.skipBlank_append blank, (same.beginsToken h).skipBlank]

theorem head?_skipBlank_append (same : SameToken text other) (h : BeginsToken other) :
    (skipBlank (front ++ text)).head? = (skipBlank (front ++ other)).head? := by
  by_cases blank : AllBlank front
  · rw [same.skipBlank_append h blank, Text.skipBlank_append blank, h.skipBlank, same.head?]
  · obtain ⟨w, hw, split⟩ := exists_blank_append front
    have solid := startsSolid_skipBlank fun empty => blank (skipBlank_eq_nil.mp empty)
    rw [split, List.append_assoc, List.append_assoc, skipBlank_append_solid hw (solid.append _),
      skipBlank_append_solid hw (solid.append _), List.head?_append, List.head?_append, same.head?]

theorem endsName_append (same : SameToken text other) (ends : EndsName (front ++ other)) :
    EndsName (front ++ text) := by
  rwa [EndsName, List.head?_append, same.head?, ← List.head?_append]

end SameToken

theorem follows_iff_head? {c : Char} {text : List Char} :
    follows [c] text = true ↔ (skipBlank text).head? = some c := by
  rw [follows_iff, List.head?_eq_some_iff]

theorem expect_eq_failed {c : Char} {text place rest : List Char} {fault : Fault} :
    expect [c] text = .failed fault place rest ↔
      place = skipBlank text ∧ rest = place ∧ place.head? ≠ some c ∧
        fault = .token [c] place.head? := by
  have expected : [c].isPrefixOf (skipBlank text) = true ↔ (skipBlank text).head? = some c :=
    follows_iff_head?
  simp only [expect, expected]
  split
  next found =>
    refine iff_of_false (by simp) ?_
    rintro ⟨rfl, -, other, -⟩
    exact other found
  next other =>
    simp only [Outcome.failed.injEq]
    constructor
    · rintro ⟨rfl, rfl, rfl⟩
      exact ⟨rfl, rfl, other, rfl⟩
    · rintro ⟨rfl, rfl, -, rfl⟩
      exact ⟨rfl, rfl, rfl⟩

theorem expect_of_sameToken {c : Char} {w place rest : List Char} (hw : AllBlank w)
    (begins : BeginsToken place) (other : place.head? ≠ some c) (same : SameToken rest place) :
    expect [c] (w ++ rest) = .failed (.token [c] place.head?) rest rest := by
  rw [← same.head?] at other ⊢
  exact expect_eq_failed.mpr ⟨(same.skipBlank_append begins hw).symm, rfl, other, rfl⟩

theorem readGroup_eq_failed {text place rest : List Char} {fault : Fault} :
    readGroup text = .failed fault place rest ↔
      place = skipBlank text ∧ rest = place ∧
        Group.ofKeyword? (String.ofList (leadingName place)) = none ∧ fault = .group := by
  simp only [readGroup]
  split
  next found => simp_all
  next other =>
    simp only [Outcome.failed.injEq]
    constructor
    · rintro ⟨rfl, rfl, rfl⟩
      exact ⟨rfl, rfl, other, rfl⟩
    · rintro ⟨rfl, rfl, -, rfl⟩
      exact ⟨rfl, rfl, rfl⟩

/-- The reader fails at `place`, of which it has seen no more than the token: with the same token
it fails there whatever follows. What stands in front is the beginning of a text of the language,
so nothing but the token is to blame. -/
structure StopsAt {α : Type} (read : List Char → Outcome α) (Language : List Char → Prop)
    (fault : Fault) (front place : List Char) : Prop where
  begins : BeginsToken place
  viable : ∃ text, Language text ∧ front <+: text
  again : ∀ rest, SameToken rest place → read (front ++ rest) = .failed fault rest rest

theorem readItems_of_failed {α : Type} {reader : ItemReader α} {text place rest : List Char}
    {fault : Fault} (isOpen : ¬follows [')'] text = true)
    (failed : reader.read text = .failed fault place rest) :
    readItems reader text = .failed fault place rest := by
  rw [readItems, if_neg isOpen]
  split
  next failed' =>
    cases failed.symm.trans failed'
    rfl
  next read => rw [failed] at read; cases read

theorem readItems_stops {text place rest : List Char} {fault : Fault}
    (h : readItems groupReader text = .failed fault place rest) :
    ∃ front, text = front ++ place ∧
      StopsAt (readItems groupReader) (fun t => ∃ groups, Series GroupText t groups) fault front
        place := by
  fun_induction readItems groupReader text generalizing fault place rest with
  | case1 => cases h
  | case2 text isOpen fault' place' rest' failed =>
    cases h
    obtain ⟨w, hw, split⟩ := exists_blank_append text
    obtain ⟨rfl, rfl, unknown, rfl⟩ := readGroup_eq_failed.mp failed
    have begins := beginsToken_skipBlank text
    -- A series may end in front of any item, so the bad one can be replaced by the end.
    refine ⟨w, split, begins, ⟨w, ⟨[], .empty hw⟩, List.prefix_refl w⟩, fun rest same => ?_⟩
    have start := same.skipBlank_append begins hw
    refine readItems_of_failed ?_ (readGroup_eq_failed.mpr ⟨start.symm, rfl, ?_, rfl⟩)
    · rwa [follows_iff_head?, start, same.head?, ← follows_iff_head?]
    · rwa [same.leadingName]
  | case3 text isOpen group behind read tail comma ih =>
    -- The item in front of the comma is read alike whatever stands behind the comma.
    obtain ⟨front, rfl, stops⟩ := ih (Outcome.map_eq_failed.mp h)
    obtain ⟨w, s, w', hw, hs, hw', -, rfl⟩ := reads_groups.sound read comma (Or.inl rfl)
    obtain ⟨whole, ⟨groups, series⟩, within⟩ := stops.viable
    refine ⟨w ++ (s ++ (w' ++ ',' :: front)), by simp only [List.append_assoc, List.cons_append],
      stops.begins, ⟨_, ⟨_, .cons hw hs hw' series⟩, ?_⟩, fun rest same => ?_⟩
    · simpa [List.prefix_append_right_inj] using within
    · simp only [List.append_assoc, List.cons_append]
      obtain ⟨behind, read, start⟩ := reads_groups.complete hw hs hw' (Or.inl rfl) (front ++ rest)
      rw [readItems_of_comma (reads_groups.not_follows hw hs _) read start,
        stops.again rest same]
      rfl
  | case4 => cases h

theorem readItems_open {text behind : List Char} {groups : List Group}
    (h : readItems groupReader text = .done groups behind)
    (isOpen : (skipBlank behind).head? ≠ some ')') :
    ∃ front, text = front ++ behind ∧ Series GroupText front groups ∧ BeginsToken behind ∧
      ∀ rest, SameToken rest behind → readItems groupReader (front ++ rest) = .done groups rest := by
  -- Reading stops in the open only behind an item without a comma, which is the last case.
  fun_induction readItems groupReader text generalizing groups behind with
  | case1 text closing =>
    cases h
    rw [skipBlank_skipBlank] at isOpen
    exact absurd (follows_iff_head?.mp closing) isOpen
  | case2 => cases h
  | case3 text _ group behindGroup read tail comma ih =>
    obtain ⟨later, inner, rfl⟩ := Outcome.map_eq_done.mp h
    obtain ⟨front, rfl, series, begins, again⟩ := ih inner isOpen
    obtain ⟨w, s, w', hw, hs, hw', -, rfl⟩ := reads_groups.sound read comma (Or.inl rfl)
    refine ⟨w ++ (s ++ (w' ++ ',' :: front)), by simp only [List.append_assoc, List.cons_append],
      .cons hw hs hw' series, begins, fun rest same => ?_⟩
    simp only [List.append_assoc, List.cons_append]
    obtain ⟨behind, read, start⟩ := reads_groups.complete hw hs hw' (Or.inl rfl) (front ++ rest)
    rw [readItems_of_comma (reads_groups.not_follows hw hs _) read start, again rest same]
    rfl
  | case4 text _ group behindGroup read other =>
    cases h
    obtain ⟨w, hw, ends, rfl⟩ := readGroup_eq_done.mp read
    obtain ⟨w', hw', split⟩ := exists_blank_append behindGroup
    have begins := beginsToken_skipBlank behindGroup
    refine ⟨w ++ (group.keyword.toList ++ w'), ?_, .single hw rfl hw', begins, fun rest same => ?_⟩
    · simp only [List.append_assoc, ← split]
    · have start := same.skipBlank_append begins hw'
      have read : readGroup (w ++ (group.keyword.toList ++ (w' ++ rest))) =
          .done group (w' ++ rest) :=
        readGroup_eq_done.mpr ⟨w, hw, same.endsName_append (split ▸ ends), rfl⟩
      simp only [List.append_assoc]
      rw [readItems_of_last (reads_groups.not_follows hw rfl _) read ?_, start]
      intro tail comma
      have head := same.head?
      rw [← start, comma] at head
      obtain ⟨tail, comma⟩ := List.head?_eq_some_iff.mp head.symm
      exact other tail comma

def SpacedList (text : List Char) : Prop :=
  ∃ w inner groups, AllBlank w ∧ Series GroupText inner groups ∧
    text = w ++ '(' :: (inner ++ [')'])

theorem readList_stops {text place rest : List Char} {fault : Fault}
    (h : readList groupReader text = .failed fault place rest) :
    ∃ front, text = front ++ place ∧
      StopsAt (readList groupReader) SpacedList fault front place := by
  obtain ⟨w, hw, split⟩ := exists_blank_append text
  rcases Outcome.andThen_eq_failed.mp h with failed | ⟨_, inner, opened, listed⟩
  · -- Any list can follow white space.
    obtain ⟨rfl, rfl, other, rfl⟩ := expect_eq_failed.mp failed
    have begins := beginsToken_skipBlank text
    refine ⟨w, split, begins, ⟨_, ⟨w, [], [], hw, .empty allBlank_nil, rfl⟩,
      List.prefix_append w _⟩, fun rest same => ?_⟩
    exact Outcome.andThen_eq_failed.mpr (.inl (expect_of_sameToken hw begins other same))
  rw [expect_eq_done.mp opened] at split
  subst split
  have opens (inner : List Char) : expect ['('] (w ++ '(' :: inner) = .done () inner :=
    expect_eq_done.mpr (skipBlank_append_cons hw rfl inner)
  rcases Outcome.andThen_eq_failed.mp listed with failed | ⟨groups, behind, read, closed⟩
  · obtain ⟨front, rfl, stops⟩ := readItems_stops failed
    obtain ⟨whole, ⟨groups, series⟩, within⟩ := stops.viable
    refine ⟨w ++ '(' :: front, by simp only [List.append_assoc, List.cons_append], stops.begins,
      ⟨_, ⟨w, whole, groups, hw, series, rfl⟩, ?_⟩, fun rest same => ?_⟩
    · rw [List.prefix_append_right_inj, List.prefix_cons_inj]
      exact within.trans (List.prefix_append _ _)
    · simp only [List.append_assoc, List.cons_append]
      exact Outcome.andThen_eq_failed.mpr (.inr ⟨(), _, opens _,
        Outcome.andThen_eq_failed.mpr (.inl (stops.again rest same))⟩)
  · -- The last item is in front of neither a comma nor the parenthesis.
    obtain ⟨rfl, rfl, other, rfl⟩ := expect_eq_failed.mp (Outcome.map_eq_failed.mp closed)
    obtain ⟨front, rfl, series, begins, again⟩ := readItems_open read other
    rw [begins.skipBlank] at other ⊢
    refine ⟨w ++ '(' :: front, by simp only [List.append_assoc, List.cons_append], begins,
      ⟨_, ⟨w, front, groups, hw, series, rfl⟩, ?_⟩, fun rest same => ?_⟩
    · rw [List.prefix_append_right_inj, List.prefix_cons_inj]
      exact List.prefix_append _ _
    · simp only [List.append_assoc, List.cons_append]
      exact Outcome.andThen_eq_failed.mpr (.inr ⟨(), _, opens _,
        Outcome.andThen_eq_failed.mpr (.inr ⟨groups, rest, again rest same,
          Outcome.map_eq_failed.mpr (expect_of_sameToken allBlank_nil begins other same)⟩)⟩)

def groupClause? (keyword : List Char) : Option (List Group → Clause) :=
  if keyword = "include".toList then some .includes
  else if keyword = "exclude".toList then some .excludes
  else none

theorem clauseText_of_groupClause? {keyword : List Char} {clause : List Group → Clause}
    (h : groupClause? keyword = some clause) :
    isName keyword = true ∧ ∀ w inner groups, AllBlank w → Series GroupText inner groups →
      ClauseText false (keyword ++ (w ++ '(' :: (inner ++ [')']))) (clause groups) := by
  unfold groupClause? at h
  split_ifs at h with included excluded
  · cases h
    exact included ▸ ⟨by decide, fun w inner groups hw series => .includes hw series⟩
  · cases h
    exact excluded ▸ ⟨by decide, fun w inner groups hw series => .excludes hw series⟩

theorem readClause_eq (text : List Char) :
    readClause false text =
      match groupClause? (leadingName (skipBlank text)) with
      | some clause =>
        (readList groupReader
          ((skipBlank text).drop (leadingName (skipBlank text)).length)).map clause
      | none => .failed (.clause false) (skipBlank text) (skipBlank text) := by
  simp only [readClause, groupClause?]
  split_ifs <;> simp_all

theorem readClause_of_groupClause? {keyword w behind : List Char} {clause : List Group → Clause}
    (known : groupClause? keyword = some clause) (hw : AllBlank w) (ends : EndsName behind) :
    readClause false (w ++ (keyword ++ behind)) = (readList groupReader behind).map clause := by
  have name := (clauseText_of_groupClause? known).1
  have start := skipBlank_append_solid hw ((startsSolid_name name).append behind)
  rw [readClause_eq, start, leadingName_append name ends, known, List.drop_left]

def SpacedClause (text : List Char) : Prop :=
  ∃ w s clause, AllBlank w ∧ ClauseText false s clause ∧ text = w ++ s

theorem readClause_stops {text place rest : List Char} {fault : Fault}
    (h : readClause false text = .failed fault place rest) :
    ∃ front, text = front ++ place ∧
      StopsAt (readClause false) SpacedClause fault front place := by
  obtain ⟨w, hw, split⟩ := exists_blank_append text
  rw [readClause_eq] at h
  cases known : groupClause? (leadingName (skipBlank text)) with
  | none =>
    rw [known] at h
    cases h
    have begins := beginsToken_skipBlank text
    refine ⟨w, split, begins, ⟨_, ⟨w, _, .includes [], hw,
      .includes allBlank_nil (.empty allBlank_nil), rfl⟩, List.prefix_append w _⟩,
      fun rest same => ?_⟩
    rw [readClause_eq, same.skipBlank_append begins hw, same.leadingName, known]
  | some clause =>
    rw [known] at h
    obtain ⟨name, derives⟩ := clauseText_of_groupClause? known
    have nonempty : leadingName (skipBlank text) ≠ [] := (startsSolid_name name).ne_nil
    obtain ⟨front, behind, stops⟩ := readList_stops (Outcome.map_eq_failed.mp h)
    have ends := endsName_drop_leadingName nonempty
    have whole := leadingName_append_drop (skipBlank text)
    rw [behind] at ends whole
    obtain ⟨_, ⟨v, inner, groups, hv, series, rfl⟩, within⟩ := stops.viable
    refine ⟨w ++ (leadingName (skipBlank text) ++ front), ?_, stops.begins,
      ⟨_, ⟨w, _, _, hw, derives v inner groups hv series, rfl⟩, ?_⟩, fun rest same => ?_⟩
    · simp only [List.append_assoc, whole, ← split]
    · rwa [List.prefix_append_right_inj, List.prefix_append_right_inj]
    · simp only [List.append_assoc]
      rw [readClause_of_groupClause? known hw (same.endsName_append ends), stops.again rest same]
      rfl

/-- Behind a clause there has to be a comma or the end of the text. -/
theorem readClauses_of_clause {w s behind : List Char} {clause : Clause} (hw : AllBlank w)
    (hs : ClauseText false s clause) (more : (skipBlank behind).head? ≠ none) :
    readClauses false (w ++ (s ++ behind)) = (expect [','] behind).andThen fun _ rest =>
      (readClauses false rest).map (clause :: ·) := by
  have start := skipBlank_append_solid hw (hs.startsSolid.append behind)
  have nonempty := (hs.startsSolid.append behind).ne_nil
  rw [readClauses_eq, start, if_neg (by simpa using nonempty), readClause_complete hw hs]
  simp only [Outcome.andThen]
  rw [if_neg (by simpa using more)]

theorem readClauses_stops {text place rest : List Char} {fault : Fault}
    (h : readClauses false text = .failed fault place rest) :
    ∃ front, text = front ++ place ∧
      StopsAt (readClauses false) (fun t => ∃ clauses, BlockText false t clauses) fault front
        place := by
  fun_induction readClauses false text generalizing fault place rest with
  | case1 => cases h
  | case2 text nonempty fault' place' rest' failed =>
    cases h
    -- The clause that was begun can be completed, and a block may end behind it.
    obtain ⟨front, rfl, stops⟩ := readClause_stops failed
    obtain ⟨_, ⟨w, s, clause, hw, hs, rfl⟩, within⟩ := stops.viable
    refine ⟨front, rfl, stops.begins, ⟨_, ⟨[clause], .single hw hs allBlank_nil⟩, ?_⟩,
      fun rest same => ?_⟩
    · rwa [List.append_nil]
    · have head : (skipBlank (front ++ rest)).head? = _ := same.head?_skipBlank_append stops.begins
      rw [readClauses_eq, if_neg, stops.again rest same]
      · rfl
      · simpa [← List.head?_eq_none_iff, head] using nonempty
  | case3 => cases h
  | case4 text _ clause behind read more fault' place' rest' failed =>
    cases h
    -- The clause is complete, and only a comma or the end can follow.
    obtain ⟨rfl, rfl, other, rfl⟩ := expect_eq_failed.mp failed
    obtain ⟨w, s, hw, hs, rfl⟩ := readClause_sound read
    obtain ⟨w', hw', split⟩ := exists_blank_append behind
    have begins := beginsToken_skipBlank behind
    refine ⟨w ++ (s ++ w'), by simp only [List.append_assoc, ← split], begins,
      ⟨_, ⟨[clause], .single hw hs hw'⟩, List.prefix_refl _⟩, fun rest same => ?_⟩
    have more : (skipBlank (w' ++ rest)).head? ≠ none := by
      rw [same.skipBlank_append begins hw', same.head?]
      simpa using more
    simp only [List.append_assoc]
    rw [readClauses_of_clause hw hs more]
    exact Outcome.andThen_eq_failed.mpr (.inl (expect_of_sameToken hw' begins other same))
  | case5 text _ clause behind read _ tail comma ih =>
    obtain ⟨front, rfl, stops⟩ := ih (Outcome.map_eq_failed.mp h)
    obtain ⟨w, s, hw, hs, rfl⟩ := readClause_sound read
    obtain ⟨w', hw', split⟩ := exists_blank_append behind
    rw [expect_eq_done.mp comma] at split
    subst split
    obtain ⟨whole, ⟨clauses, block⟩, within⟩ := stops.viable
    refine ⟨w ++ (s ++ (w' ++ ',' :: front)), by simp only [List.append_assoc, List.cons_append],
      stops.begins, ⟨_, ⟨_, .cons hw hs hw' block⟩, ?_⟩, fun rest same => ?_⟩
    · simpa [List.prefix_append_right_inj] using within
    · simp only [List.append_assoc, List.cons_append]
      rw [readClauses_of_comma hw hs hw', stops.again rest same]
      rfl

end PlatformGate.Options

namespace PlatformGate.OptionBlock

open Options Text

theorem parse_eq_error {text : String} {traitsAllowed : Bool} {location : Location}
    {diagnostic : Diagnostic} :
    parse text traitsAllowed location = .error diagnostic ↔
      ∃ fault place rest, readClauses traitsAllowed text.toList = .failed fault place rest ∧
        diagnostic = ⟨fault.message,
          location.advance text.toList (text.toList.length - place.length)⟩ := by
  simp only [parse]
  split
  next read =>
    refine iff_of_false (by simp) ?_
    rintro ⟨fault, place, rest, failed, -⟩
    cases read.symm.trans failed
  next fault place rest read =>
    constructor
    · intro h
      cases h
      exact ⟨fault, place, rest, read, rfl⟩
    · rintro ⟨_, _, _, failed, rfl⟩
      cases read.symm.trans failed
      rfl

/-- A text without traits is refused at its first token that no accepted text goes on with. -/
theorem refused_at_first_bad_token {text : String} {location : Location} {diagnostic : Diagnostic}
    (h : parse text false location = .error diagnostic) :
    ∃ k ≤ text.toList.length,
      diagnostic.location = location.advance text.toList k ∧
      (∀ c, text.toList[k]? = some c → isBlank c = false) ∧
      (∃ (accepted : String) (block : OptionBlock),
        parse accepted false location = .ok block ∧ text.toList.take k <+: accepted.toList) ∧
      ∀ other : String, text.toList.take k <+: other.toList →
        SameToken (other.toList.drop k) (text.toList.drop k) →
        parse other false location = .error diagnostic := by
  obtain ⟨fault, place, rest, failed, rfl⟩ := parse_eq_error.mp h
  obtain ⟨front, split, stops⟩ := readClauses_stops failed
  -- The bad token begins behind `front`, which is where the text is cut.
  have position : text.toList.length - place.length = front.length := by
    rw [split, List.length_append, Nat.add_sub_cancel]
  rw [position]
  have before : text.toList.take front.length = front := by rw [split, List.take_left]
  have behind : text.toList.drop front.length = place := by rw [split, List.drop_left]
  refine ⟨front.length, ?_, rfl, ?_, ?_, ?_⟩
  · rw [split, List.length_append]
    exact Nat.le_add_right _ _
  · rw [← List.head?_drop, behind]
    exact stops.begins
  · obtain ⟨accepted, ⟨clauses, block⟩, within⟩ := stops.viable
    rw [before]
    rw [← String.toList_ofList (l := accepted)] at block within
    exact ⟨_, _, parse_eq_ok.mpr ⟨clauses, block, rfl⟩, within⟩
  · rintro other ⟨rest, same⟩ token
    rw [before] at same
    rw [behind, ← same, List.drop_left] at token
    refine parse_eq_error.mpr ⟨fault, rest, rest, ?_, ?_⟩
    · rw [← same]
      exact stops.again rest token
    · rw [← same, List.length_append, Nat.add_sub_cancel, Location.advance, Location.advance,
        List.take_left, before]

theorem refused_at_first_bad_token_of_group :
    parse "include(linux,\n macox), exclude" false ⟨3, 9⟩ = .error
      ⟨"expected one of: `all`, `posix`, `linux`, `macos`, `windows`", ⟨4, 1⟩⟩ ∧
    (∃ (accepted : String) (block : OptionBlock), parse accepted false ⟨3, 9⟩ = .ok block ∧
      "include(linux,\n ".toList <+: accepted.toList) ∧
    parse "include(linux,\n macox" false ⟨3, 9⟩ = .error
      ⟨"expected one of: `all`, `posix`, `linux`, `macos`, `windows`", ⟨4, 1⟩⟩ := by
  have refused : parse "include(linux,\n macox), exclude" false ⟨3, 9⟩ = .error
      ⟨"expected one of: `all`, `posix`, `linux`, `macos`, `windows`", ⟨4, 1⟩⟩ :=
    parse_eq_error.mpr ⟨.group, "macox), exclude".toList, "macox), exclude".toList,
      by decide +kernel, by decide +kernel⟩
  obtain ⟨k, bound, place, -, viable, again⟩ := refused_at_first_bad_token refused
  have position : k = 16 := by
    have only : ∀ k ≤ "include(linux,\n macox), exclude".toList.length,
        Location.mk 4 1 = Location.advance ⟨3, 9⟩ "include(linux,\n macox), exclude".toList k →
          k = 16 := by decide +kernel
    exact only k bound place
  subst position
  exact ⟨refused, viable, again "include(linux,\n macox" (by decide +kernel) (by decide +kernel)⟩

/-- Where a text stands decides neither whether it is accepted nor what it says, and moves the place
of its diagnostic. -/
theorem parse_moved (text : String) (traitsAllowed : Bool) (location : Location) :
    match parse text traitsAllowed .unstated with
    | .ok block => parse text traitsAllowed location = .ok { block with location }
    | .error diagnostic =>
      0 ≤ diagnostic.location.line ∧
        parse text traitsAllowed location =
          .error ⟨diagnostic.message, location.relativeTo diagnostic.location⟩ := by
  split
  next block accepted =>
    obtain ⟨clauses, derived, rfl⟩ := parse_eq_ok.mp accepted
    exact parse_eq_ok.mpr ⟨clauses, derived, rfl⟩
  next diagnostic refused =>
    obtain ⟨fault, place, rest, failed, rfl⟩ := parse_eq_error.mp refused
    refine ⟨?_, parse_eq_error.mpr ⟨fault, place, rest, failed, ?_⟩⟩
    · rw [Location.line_advance_unstated]
      exact Int.natCast_nonneg _
    · rw [← Location.advance_eq_relativeTo]

end PlatformGate.OptionBlock
