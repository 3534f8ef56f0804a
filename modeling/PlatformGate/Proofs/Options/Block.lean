import PlatformGate.OptionBlock
import PlatformGate.Proofs.Options.TraitPath

/-! Reading a whole option text. The reader accepts exactly the blocks of the grammar, and finds
the clauses of the one derivation that a text has. -/

namespace PlatformGate.Options

open Text

theorem listing_append (keyword : String) (w inner rest : List Char) :
    listing keyword w inner ++ rest = keyword.toList ++ (w ++ '(' :: (inner ++ ')' :: rest)) := by
  simp only [listing, List.append_assoc, List.cons_append, List.nil_append]

theorem ClauseText.startsSolid {traitsAllowed : Bool} {s : List Char} {clause : Clause}
    (h : ClauseText traitsAllowed s clause) : StartsSolid s := by
  cases h with
  | includes => exact ⟨'i', rfl, rfl⟩
  | excludes => exact ⟨'e', rfl, rfl⟩
  | traits => exact ⟨'t', rfl, rfl⟩

theorem separates_groups {inner : List Char} {groups : List Group}
    (h : Series GroupText inner groups) : Separates inner ')' :=
  separates_of_not_mem (Or.inr rfl) (h.not_mem (by decide) rfl fun _ group text => by
    rw [text]
    exact minus_not_mem_name (isName_keyword group))

theorem leadingName_listing {keyword : String} (name : isName keyword.toList = true)
    {w : List Char} (hw : AllBlank w) (inner rest : List Char) :
    leadingName (listing keyword w inner ++ rest) = keyword.toList := by
  rw [listing_append]
  exact leadingName_append name (endsName_append_blank hw (endsName_cons (by decide) _))

variable {α : Type} {reader : ItemReader α} {Item : List Char → α → Prop}

theorem exists_listing (reads : Reads reader Item) {keyword : String} {start rest : List Char}
    {items : List α} (name : leadingName start = keyword.toList)
    (h : readList reader (start.drop (leadingName start).length) = .done items rest) :
    ∃ w inner, AllBlank w ∧ Series Item inner items ∧ Separates inner ')' ∧
      start = listing keyword w inner ++ rest := by
  obtain ⟨w, inner, hw, series, ends, split⟩ := (readList_eq_done reads).mp h
  refine ⟨w, inner, hw, series, ends, ?_⟩
  rw [listing_append, ← split, ← name, leadingName_append_drop]

theorem readClause_sound {traitsAllowed : Bool} {text rest : List Char} {clause : Clause}
    (h : readClause traitsAllowed text = .done clause rest) :
    ∃ w s, AllBlank w ∧ ClauseText traitsAllowed s clause ∧ text = w ++ (s ++ rest) := by
  obtain ⟨w, hw, split⟩ := exists_blank_append text
  simp only [readClause] at h
  split at h
  next name =>
    obtain ⟨groups, read, rfl⟩ := Outcome.map_eq_done.mp h
    obtain ⟨v, inner, hv, series, -, start⟩ := exists_listing reads_groups name read
    exact ⟨w, _, hw, .includes hv series, by rw [← start, ← split]⟩
  next =>
    split at h
    next name =>
      obtain ⟨groups, read, rfl⟩ := Outcome.map_eq_done.mp h
      obtain ⟨v, inner, hv, series, -, start⟩ := exists_listing reads_groups name read
      exact ⟨w, _, hw, .excludes hv series, by rw [← start, ← split]⟩
    next =>
      split at h
      next name =>
        obtain ⟨paths, read, rfl⟩ := Outcome.map_eq_done.mp h
        obtain ⟨v, inner, hv, series, ends, start⟩ := exists_listing reads_traits name.1 read
        exact ⟨w, _, hw, .traits name.2 hv series ends, by rw [← start, ← split]⟩
      next => cases h

theorem readList_listing (reads : Reads reader Item) {keyword : String}
    (name : isName keyword.toList = true) {w inner : List Char} {items : List α}
    (hw : AllBlank w) (series : Series Item inner items) (ends : Separates inner ')')
    (rest : List Char) :
    readList reader ((listing keyword w inner ++ rest).drop
      (leadingName (listing keyword w inner ++ rest)).length) = .done items rest := by
  rw [leadingName_listing name hw, listing_append, List.drop_left]
  exact (readList_eq_done reads).mpr ⟨w, inner, hw, series, ends, rfl⟩

theorem readClause_complete {traitsAllowed : Bool} {w s : List Char} {clause : Clause}
    (hw : AllBlank w) (hs : ClauseText traitsAllowed s clause) (rest : List Char) :
    readClause traitsAllowed (w ++ (s ++ rest)) = .done clause rest := by
  have start := skipBlank_append_solid hw (hs.startsSolid.append rest)
  simp only [readClause, start]
  cases hs with
  | includes hv series =>
    have name : isName "include".toList = true := by decide
    rw [if_pos (leadingName_listing name hv _ _),
      readList_listing reads_groups name hv series (separates_groups series)]
    rfl
  | excludes hv series =>
    have name : isName "exclude".toList = true := by decide
    rw [if_neg (by rw [leadingName_listing name hv]; decide),
      if_pos (leadingName_listing name hv _ _),
      readList_listing reads_groups name hv series (separates_groups series)]
    rfl
  | traits allowed hv series ends =>
    have name : isName "traits".toList = true := by decide
    rw [if_neg (by rw [leadingName_listing name hv]; decide),
      if_neg (by rw [leadingName_listing name hv]; decide),
      if_pos ⟨leadingName_listing name hv _ _, allowed⟩,
      readList_listing reads_traits name hv series ends]
    rfl

theorem readClauses_eq (traitsAllowed : Bool) (text : List Char) :
    readClauses traitsAllowed text =
      if (skipBlank text).isEmpty then .done [] []
      else (readClause traitsAllowed text).andThen fun clause behind =>
        if (skipBlank behind).isEmpty then .done [clause] []
        else (expect [','] behind).andThen fun _ rest =>
          (readClauses traitsAllowed rest).map (clause :: ·) := by
  rw [readClauses]
  split
  next => rfl
  next =>
    split
    next read => rw [read]; rfl
    next read =>
      rw [read]
      simp only [Outcome.andThen]
      split
      next => rfl
      next => split <;> simp_all

theorem readClauses_of_blank {traitsAllowed : Bool} {text : List Char} (h : AllBlank text) :
    readClauses traitsAllowed text = .done [] [] := by
  rw [readClauses_eq, skipBlank_eq_nil.mpr h]
  rfl

section Clause

variable {traitsAllowed : Bool} {w s w' : List Char} {clause : Clause} (hw : AllBlank w)
  (hs : ClauseText traitsAllowed s clause) (hw' : AllBlank w')

include hw hs hw'

theorem readClauses_of_last : readClauses traitsAllowed (w ++ (s ++ w')) = .done [clause] [] := by
  have start := skipBlank_append_solid hw (hs.startsSolid.append w')
  have nonempty := (hs.startsSolid.append w').ne_nil
  rw [readClauses_eq, start, if_neg (by simpa using nonempty), readClause_complete hw hs]
  simp [Outcome.andThen, skipBlank_eq_nil.mpr hw']

theorem readClauses_of_comma (rest : List Char) :
    readClauses traitsAllowed (w ++ (s ++ (w' ++ ',' :: rest))) =
      (readClauses traitsAllowed rest).map (clause :: ·) := by
  have start := skipBlank_append_solid hw (hs.startsSolid.append (w' ++ ',' :: rest))
  have comma : skipBlank (w' ++ ',' :: rest) = ',' :: rest :=
    skipBlank_append_cons hw' rfl rest
  rw [readClauses_eq, start, if_neg (by simp), readClause_complete hw hs]
  simp [Outcome.andThen, comma, expect_eq_done.mpr comma]

end Clause

theorem readClauses_sound {traitsAllowed : Bool} {text rest : List Char} {clauses : List Clause}
    (h : readClauses traitsAllowed text = .done clauses rest) :
    BlockText traitsAllowed text clauses := by
  fun_induction readClauses traitsAllowed text generalizing clauses rest with
  | case1 text blank =>
    cases h
    exact .empty (skipBlank_eq_nil.mp (List.isEmpty_iff.mp blank))
  | case2 => cases h
  | case3 text _ clause behind read blank =>
    cases h
    obtain ⟨w, s, hw, hs, rfl⟩ := readClause_sound read
    exact .single hw hs (skipBlank_eq_nil.mp (List.isEmpty_iff.mp blank))
  | case4 => cases h
  | case5 text _ clause behind read _ tail comma ih =>
    obtain ⟨later, inner, rfl⟩ := Outcome.map_eq_done.mp h
    obtain ⟨w, s, hw, hs, rfl⟩ := readClause_sound read
    obtain ⟨w', hw', split⟩ := exists_blank_append behind
    rw [expect_eq_done.mp comma] at split
    rw [split]
    exact .cons hw hs hw' (ih inner)

theorem readClauses_row {traitsAllowed : Bool} {w t w' : List Char} {clauses : List Clause}
    (hw : AllBlank w) (row : Row (ClauseText traitsAllowed) t clauses) (hw' : AllBlank w') :
    readClauses traitsAllowed (w ++ (t ++ w')) = .done clauses [] := by
  induction row generalizing w with
  | one hs => exact readClauses_of_last hw hs hw'
  | ended hs hv =>
    simp only [List.append_assoc, List.cons_append, List.nil_append]
    rw [readClauses_of_comma hw hs hv, readClauses_of_blank hw']
    rfl
  | cons hs hv hv' _ ih =>
    simp only [List.append_assoc, List.cons_append]
    rw [readClauses_of_comma hw hs hv, ih hv']
    rfl

theorem readClauses_eq_done {traitsAllowed : Bool} {text rest : List Char}
    {clauses : List Clause} :
    readClauses traitsAllowed text = .done clauses rest ↔
      BlockText traitsAllowed text clauses ∧ rest = [] := by
  have complete : BlockText traitsAllowed text clauses →
      readClauses traitsAllowed text = .done clauses [] := by
    intro h
    cases h with
    | empty hw => exact readClauses_of_blank hw
    | row hw row hw' => exact readClauses_row hw row hw'
  constructor
  · intro h
    have block := readClauses_sound h
    have same := complete block
    rw [h] at same
    cases same
    exact ⟨block, rfl⟩
  · rintro ⟨block, rfl⟩
    exact complete block

end PlatformGate.Options

theorem PlatformGate.eq_ok_of_toOption {ε α : Type} {result : Except ε α} {value : α}
    (h : result.toOption = some value) : result = .ok value := by
  cases result with
  | error => cases h
  | ok => cases h; rfl

namespace PlatformGate.OptionBlock

open Options

theorem parse_eq_ok {text : String} {traitsAllowed : Bool} {location : Location}
    {block : OptionBlock} :
    parse text traitsAllowed location = .ok block ↔
      ∃ clauses, BlockText traitsAllowed text.toList clauses ∧
        block = ofClauses clauses location := by
  simp only [parse]
  constructor
  · intro h
    split at h
    next clauses rest read =>
      cases h
      exact ⟨clauses, (readClauses_eq_done.mp read).1, rfl⟩
    next => cases h
  · rintro ⟨clauses, h, rfl⟩
    simp only [readClauses_eq_done.mpr ⟨h, rfl⟩]

theorem clauses_unique {traitsAllowed : Bool} {text : List Char} {clauses others : List Clause}
    (h : BlockText traitsAllowed text clauses) (h' : BlockText traitsAllowed text others) :
    clauses = others := by
  have read := readClauses_eq_done.mpr ⟨h, rfl⟩
  rw [readClauses_eq_done.mpr ⟨h', rfl⟩] at read
  cases read
  rfl

def TextIncludes (traitsAllowed : Bool) (text : String) (group : Group) : Prop :=
  ∃ clauses groups, BlockText traitsAllowed text.toList clauses ∧
    Clause.includes groups ∈ clauses ∧ group ∈ groups

def TextExcludes (traitsAllowed : Bool) (text : String) (group : Group) : Prop :=
  ∃ clauses groups, BlockText traitsAllowed text.toList clauses ∧
    Clause.excludes groups ∈ clauses ∧ group ∈ groups

variable {traitsAllowed : Bool} {text : String} {clauses : List Clause}

theorem textIncludes_iff (h : BlockText traitsAllowed text.toList clauses) {group : Group} :
    TextIncludes traitsAllowed text group ↔ group ∈ clauses.flatMap includedBy := by
  rw [List.mem_flatMap]
  constructor
  · rintro ⟨others, groups, block, clause, mem⟩
    rw [clauses_unique h block]
    exact ⟨_, clause, mem⟩
  · rintro ⟨clause, isClause, mem⟩
    cases clause with
    | includes groups => exact ⟨clauses, groups, h, isClause, mem⟩
    | excludes => cases mem
    | traits => cases mem

theorem textExcludes_iff (h : BlockText traitsAllowed text.toList clauses) {group : Group} :
    TextExcludes traitsAllowed text group ↔ group ∈ clauses.flatMap excludedBy := by
  rw [List.mem_flatMap]
  constructor
  · rintro ⟨others, groups, block, clause, mem⟩
    rw [clauses_unique h block]
    exact ⟨_, clause, mem⟩
  · rintro ⟨clause, isClause, mem⟩
    cases clause with
    | includes => cases mem
    | excludes groups => exact ⟨clauses, groups, h, isClause, mem⟩
    | traits => cases mem

/-- The included groups are those that the text names, or else the group of all platforms. -/
theorem mem_included {location : Location} {block : OptionBlock}
    (h : parse text traitsAllowed location = .ok block) {group : Group} :
    group ∈ block.included ↔ TextIncludes traitsAllowed text group ∨
      group = .all ∧ ¬∃ other, TextIncludes traitsAllowed text other := by
  obtain ⟨clauses, derived, rfl⟩ := parse_eq_ok.mp h
  simp only [textIncludes_iff derived, ofClauses]
  cases clauses.flatMap includedBy with
  | nil => simp
  | cons first others =>
    have named : ∃ other, other ∈ first :: others := ⟨first, List.mem_cons_self⟩
    simp only [List.isEmpty_cons, Bool.false_eq_true, if_false, Group.mem_normalize, named,
      not_true_eq_false, and_false, or_false]

theorem mem_excluded {location : Location} {block : OptionBlock}
    (h : parse text traitsAllowed location = .ok block) {group : Group} :
    group ∈ block.excluded ↔ TextExcludes traitsAllowed text group := by
  obtain ⟨clauses, derived, rfl⟩ := parse_eq_ok.mp h
  rw [textExcludes_iff derived, ofClauses, Group.mem_normalize]

theorem traits_eq_nil {location : Location} {block : OptionBlock}
    (h : parse text false location = .ok block) : block.traits = [] := by
  obtain ⟨clauses, derived, rfl⟩ := parse_eq_ok.mp h
  refine List.flatMap_eq_nil_iff.mpr (derived.forall_mem fun s clause hs => ?_)
  cases hs with
  | includes => rfl
  | excludes => rfl
  | traits allowed => cases allowed

/-- Without traits a text is accepted exactly if the grammar derives it, and its block holds what
its clauses name. -/
theorem parse_without_traits (text : String) (location : Location) :
    ((∃ block, parse text false location = .ok block) ↔
      ∃ clauses, BlockText false text.toList clauses) ∧
    ∀ block, parse text false location = .ok block →
      (∀ group, group ∈ block.included ↔ TextIncludes false text group ∨
        group = .all ∧ ¬∃ other, TextIncludes false text other) ∧
      (∀ group, group ∈ block.excluded ↔ TextExcludes false text group) ∧ block.traits = [] := by
  refine ⟨⟨?_, ?_⟩, fun block h => ⟨fun _ => mem_included h, fun _ => mem_excluded h,
    traits_eq_nil h⟩⟩
  · rintro ⟨block, h⟩
    obtain ⟨clauses, derived, -⟩ := parse_eq_ok.mp h
    exact ⟨clauses, derived⟩
  · rintro ⟨clauses, derived⟩
    exact ⟨_, parse_eq_ok.mpr ⟨clauses, derived, rfl⟩⟩

theorem parse_without_traits_listing :
    (∃ clauses, BlockText false "include ( posix , ) , exclude(macos),".toList clauses) ∧
    (∀ group, group ∈ [Group.posix] ↔
      TextIncludes false "include ( posix , ) , exclude(macos)," group ∨
        group = .all ∧ ¬∃ other, TextIncludes false "include ( posix , ) , exclude(macos)," other) ∧
    (∀ group, group ∈ [Group.macos] ↔
      TextExcludes false "include ( posix , ) , exclude(macos)," group) := by
  have read : parse "include ( posix , ) , exclude(macos)," false ⟨1, 1⟩ =
      .ok ⟨[.posix], [.macos], [], ⟨1, 1⟩⟩ := eq_ok_of_toOption (by decide +kernel)
  obtain ⟨accepted, meaning⟩ :=
    parse_without_traits "include ( posix , ) , exclude(macos)," ⟨1, 1⟩
  obtain ⟨included, excluded, -⟩ := meaning _ read
  exact ⟨accepted.mp ⟨_, read⟩, included, excluded⟩

end PlatformGate.OptionBlock
