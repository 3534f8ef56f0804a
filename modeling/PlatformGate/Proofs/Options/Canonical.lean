import PlatformGate.Proofs.Options.Block

/-! The canonical text of an option block. Clauses that are written down are read back, provided
that the trait paths in them are as a reader leaves them. A path with its white space folded is a
path of the same shape, so what a reader has kept is read the same way again. -/

namespace PlatformGate.Options

open Text

theorem foldRuns_name {name : List Char} (h : isName name = true) :
    foldRuns false name = name :=
  foldRuns_of_solid false (solid_of_mem_name h)

theorem foldRuns_between {s w t : List Char} (hs : EndsSolid s) (ht : StartsSolid t) :
    foldRuns false (s ++ (w ++ t)) =
      foldRuns false s ++ (foldRuns false w ++ foldRuns false t) := by
  rw [foldRuns_append_of_endsSolid false hs, foldRuns_append_of_startsSolid false w ht]

theorem Applied.foldRuns {kind : BracketKind} {s : List Char} (h : Applied kind s) :
    Applied kind (foldRuns false s) := by
  obtain ⟨name, w, a, hn, hw, ha, rfl⟩ := h
  refine ⟨name, _, _, hn, allBlank_foldRuns false hw, ha.foldRuns, ?_⟩
  rw [foldRuns_between (endsSolid_name hn) ha.startsSolid, foldRuns_name hn]

theorem SegmentText.foldRuns {s : List Char} (h : SegmentText s) :
    SegmentText (foldRuns false s) := by
  rcases h with hn | applied
  · rw [foldRuns_name hn]
    exact Or.inl hn
  · exact Or.inr applied.foldRuns

section Sign

variable {c d : Char} (hc : isBlank c = false) (hd : isBlank d = false) {t : List Char}
  (ht : StartsSolid t) (w : List Char)

include hc hd ht

theorem foldRuns_sign :
    foldRuns false (c :: d :: (w ++ t)) = c :: d :: (foldRuns false w ++ foldRuns false t) := by
  rw [← foldRuns_append_of_startsSolid false w ht]
  simp [foldRuns, hc, hd]

theorem foldRuns_joint {s : List Char} (hs : EndsSolid s) (v : List Char) :
    foldRuns false (s ++ (v ++ c :: d :: (w ++ t))) =
      foldRuns false s ++ (foldRuns false v ++
        c :: d :: (foldRuns false w ++ foldRuns false t)) := by
  rw [foldRuns_between hs (startsSolid_cons hc _), foldRuns_sign hc hd ht]

end Sign

theorem Segments.foldRuns {s : List Char} (h : Segments s) : Segments (foldRuns false s) := by
  induction h with
  | single hs => exact .single hs.foldRuns
  | call hs => exact .call hs.foldRuns
  | returning hs hw hw' hr =>
    rw [foldRuns_joint rfl rfl hr.starts _ hs.endsSolid]
    exact .returning hs.foldRuns (allBlank_foldRuns false hw) (allBlank_foldRuns false hw')
      hr.foldRuns
  | joined hs hw hw' ht ih =>
    rw [foldRuns_joint rfl rfl ht.startsSolid _ hs.endsSolid]
    exact .joined hs.foldRuns (allBlank_foldRuns false hw) (allBlank_foldRuns false hw') ih

theorem PathText.foldRuns {s : List Char} (h : PathText s) : PathText (foldRuns false s) := by
  cases h with
  | relative hs => exact .relative hs.foldRuns
  | absolute hw hs =>
    rw [foldRuns_sign rfl rfl hs.startsSolid]
    exact .absolute (allBlank_foldRuns false hw) hs.foldRuns

theorem TraitText.of_kept {text : List Char} {path : String} (h : TraitText text path) :
    TraitText path.toList path := by
  obtain ⟨hs, rfl⟩ := h
  rw [String.toList_ofList]
  exact ⟨hs.foldRuns, by rw [foldRuns_foldRuns]⟩

variable {α : Type} {Item : List Char → α → Prop}

theorem Series.blank_append {w t : List Char} {as : List α} (hw : AllBlank w)
    (h : Series Item t as) : Series Item (w ++ t) as := by
  cases h with
  | empty ht => exact .empty (hw.append ht)
  | row hv row hv' =>
    rw [← List.append_assoc]
    exact .row (hw.append hv) row hv'

theorem series_intercalate (text : α → List Char) {w : List Char} (hw : AllBlank w) {as : List α}
    (items : ∀ a ∈ as, Item (text a) a) :
    Series Item ([',', ' '].intercalate (as.map fun a => text a ++ w)) as := by
  induction as with
  | nil => exact .empty allBlank_nil
  | cons a as ih =>
    obtain ⟨first, others⟩ := List.forall_mem_cons.mp items
    have later := ih others
    cases as with
    | nil => simpa using Series.single allBlank_nil first hw
    | cons b as =>
      have whole := Series.cons allBlank_nil first hw (later.blank_append allBlank_space)
      simpa [List.intercalate_cons_cons] using whole

def writeList (keyword : String) (items : List String) : String :=
  keyword ++ "(" ++ ", ".intercalate items ++ ")"

/-- The space behind each trait path keeps what follows away from a minus sign at its end. -/
def Clause.write : Clause → String
  | includes groups => writeList "include" (groups.map Group.keyword)
  | excludes groups => writeList "exclude" (groups.map Group.keyword)
  | traits paths => writeList "traits" (paths.map (· ++ " "))

def writeClauses (clauses : List Clause) : String := ", ".intercalate (clauses.map Clause.write)

theorem toList_writeList (keyword : String) (items : List String) :
    (writeList keyword items).toList =
      listing keyword [] ([',', ' '].intercalate (items.map String.toList)) := by
  simp [writeList, listing, String.toList_intercalate]

theorem series_keywords (groups : List Group) :
    Series GroupText ([',', ' '].intercalate (groups.map fun group => group.keyword.toList))
      groups := by
  have keywords : ∀ group ∈ groups, GroupText group.keyword.toList group := fun _ _ => rfl
  simpa using series_intercalate _ allBlank_nil keywords

theorem series_paths {paths : List String} (kept : ∀ path ∈ paths, TraitText path.toList path) :
    Series TraitText ([',', ' '].intercalate (paths.map fun path => path.toList ++ [' '])) paths :=
  series_intercalate _ allBlank_space kept

/-- Behind the last path, too, there is a space. -/
theorem separates_paths (paths : List String) :
    Separates ([',', ' '].intercalate (paths.map fun path => path.toList ++ [' '])) ')' := by
  induction paths with
  | nil => exact Or.inr ⟨rfl, by simp⟩
  | cons path paths ih =>
    cases paths with
    | nil => exact Or.inr ⟨rfl, by simp⟩
    | cons next paths =>
      have nonempty : [',', ' '].intercalate
          ((next :: paths).map fun path => path.toList ++ [' ']) ≠ [] := by
        cases paths <;> simp [List.intercalate_cons_cons]
      rw [List.map_cons, List.map_cons, List.intercalate_cons_cons]
      exact (separates_append nonempty).mpr ih

theorem clauseText_write {clause : Clause}
    (kept : ∀ path ∈ OptionBlock.traitsBy clause, TraitText path.toList path) :
    ClauseText true clause.write.toList clause := by
  cases clause with
  | includes groups =>
    rw [Clause.write, toList_writeList, List.map_map]
    exact .includes allBlank_nil (series_keywords groups)
  | excludes groups =>
    rw [Clause.write, toList_writeList, List.map_map]
    exact .excludes allBlank_nil (series_keywords groups)
  | traits paths =>
    have texts : (paths.map (· ++ " ")).map String.toList =
        paths.map fun path => path.toList ++ [' '] := by simp
    rw [Clause.write, toList_writeList, texts]
    exact .traits rfl allBlank_nil (series_paths kept) (separates_paths paths)

theorem blockText_write {clauses : List Clause}
    (kept : ∀ path ∈ clauses.flatMap OptionBlock.traitsBy, TraitText path.toList path) :
    BlockText true (writeClauses clauses).toList clauses := by
  have texts : ∀ clause ∈ clauses, ClauseText true clause.write.toList clause := fun clause mem =>
    clauseText_write fun path isPath => kept path (List.mem_flatMap.mpr ⟨clause, mem, isPath⟩)
  have series := series_intercalate _ allBlank_nil texts
  simpa [BlockText, writeClauses, String.toList_intercalate, Function.comp_def] using series

end PlatformGate.Options

theorem PlatformGate.Group.normalize_congr {groups others : List Group}
    (same : ∀ group, group ∈ groups ↔ group ∈ others) : normalize groups = normalize others := by
  refine List.filter_congr fun group _ => ?_
  simp [same group]

namespace PlatformGate.OptionBlock

open Options Text

theorem traitText_of_parse {text : String} {traitsAllowed : Bool} {location : Location}
    {block : OptionBlock} (h : parse text traitsAllowed location = .ok block) :
    ∀ path ∈ block.traits, TraitText path.toList path := by
  obtain ⟨clauses, derived, rfl⟩ := parse_eq_ok.mp h
  intro path mem
  obtain ⟨clause, isClause, isPath⟩ := List.mem_flatMap.mp mem
  refine derived.forall_mem (P := fun clause => ∀ path ∈ traitsBy clause,
    TraitText path.toList path) (fun s clause hs => ?_) clause isClause path isPath
  cases hs with
  | includes => simp [traitsBy]
  | excludes => simp [traitsBy]
  | traits _ _ series _ => exact series.forall_mem fun _ _ h => h.of_kept

def canonicalClauses (included excluded : List Group) (traits : List String) : List Clause :=
  [.includes included] ++ (if excluded.isEmpty then [] else [.excludes excluded]) ++
    (if traits.isEmpty then [] else [.traits traits])

def write (included excluded : List Group) (traits : List String) : String :=
  writeClauses (canonicalClauses included excluded traits)

example : write [.posix, .windows] [] ["Fn(A) -> B-", "::C"] =
    "include(posix, windows), traits(Fn(A) -> B- , ::C )" := by decide +kernel

theorem ofClauses_canonical {included : List Group} (nonempty : included ≠ [])
    (excluded : List Group) (traits : List String) (location : Location) :
    ofClauses (canonicalClauses included excluded traits) location =
      ⟨Group.normalize included, Group.normalize excluded, traits, location⟩ := by
  have includes : (canonicalClauses included excluded traits).flatMap includedBy = included := by
    cases excluded <;> cases traits <;> simp [canonicalClauses, includedBy]
  have excludes : (canonicalClauses included excluded traits).flatMap excludedBy = excluded := by
    cases excluded <;> cases traits <;> simp [canonicalClauses, excludedBy]
  have paths : (canonicalClauses included excluded traits).flatMap traitsBy = traits := by
    cases excluded <;> cases traits <;> simp [canonicalClauses, traitsBy]
  simp only [ofClauses, includes, excludes, paths, List.isEmpty_iff, nonempty, if_false]

theorem normalize_of_parse {text : String} {traitsAllowed : Bool} {location : Location}
    {block : OptionBlock} (h : parse text traitsAllowed location = .ok block) :
    Group.normalize block.included = block.included ∧
      Group.normalize block.excluded = block.excluded := by
  obtain ⟨clauses, -, rfl⟩ := parse_eq_ok.mp h
  have twice : ∀ groups, Group.normalize (Group.normalize groups) = Group.normalize groups :=
    fun groups => Group.normalize_congr fun _ => Group.mem_normalize
  refine ⟨?_, twice _⟩
  simp only [ofClauses]
  split
  · rfl
  · exact twice _

theorem included_ne_nil {text : String} {traitsAllowed : Bool} {location : Location}
    {block : OptionBlock} (h : parse text traitsAllowed location = .ok block) :
    block.included ≠ [] := by
  intro empty
  have none : ∀ group, group ∉ block.included := by simp [empty]
  have unnamed : ¬∃ other, TextIncludes traitsAllowed text other := fun ⟨other, named⟩ =>
    none other ((mem_included h).mpr (Or.inl named))
  exact none .all ((mem_included h).mpr (Or.inr ⟨rfl, unnamed⟩))

/-- The canonical text of what a text has said says the same, in whatever order the groups are
written. A trait path that was kept is read as itself in front of any separator. -/
theorem parse_write {text : String} {location : Location} {block : OptionBlock}
    (h : parse text true location = .ok block) :
    (∀ included excluded, included.Perm block.included → excluded.Perm block.excluded →
      ∀ place, parse (write included excluded block.traits) true place =
        .ok ⟨block.included, block.excluded, block.traits, place⟩) ∧
    ∀ path ∈ block.traits, ∀ c rest, c = ',' ∨ c = ')' →
      ∃ behind, traitPath (path.toList ++ ' ' :: c :: rest) = .done path behind ∧
        skipBlank behind = c :: rest := by
  have kept := traitText_of_parse h
  constructor
  · intro included excluded sameIncluded sameExcluded place
    -- A text without an included group would stand for all platforms.
    have nonempty : included ≠ [] := fun empty =>
      included_ne_nil h (List.nil_perm.mp (empty ▸ sameIncluded))
    have texts : ∀ path ∈ (canonicalClauses included excluded block.traits).flatMap traitsBy,
        TraitText path.toList path := by
      have paths := congrArg OptionBlock.traits
        (ofClauses_canonical nonempty excluded block.traits place)
      simp only [ofClauses] at paths
      rwa [paths]
    refine parse_eq_ok.mpr ⟨_, blockText_write texts, ?_⟩
    obtain ⟨normalIncluded, normalExcluded⟩ := normalize_of_parse h
    rw [ofClauses_canonical nonempty, Group.normalize_congr fun _ => sameIncluded.mem_iff,
      Group.normalize_congr fun _ => sameExcluded.mem_iff, normalIncluded, normalExcluded]
  · intro path mem c rest hc
    have ends : Separates (path.toList ++ [' ']) c :=
      hc.imp_right fun closing => ⟨closing, by simp⟩
    exact reads_traits.complete allBlank_nil (kept path mem) allBlank_space ends rest

theorem parse_write_unbalanced :
    parse (write [.posix, .linux] [] ["Fn(A) -> B-", "C < D->E >"]) true ⟨7, 1⟩ =
      .ok ⟨[.linux, .posix], [], ["Fn(A) -> B-", "C < D->E >"], ⟨7, 1⟩⟩ ∧
    ∃ behind, traitPath ("C < D->E >".toList ++ " )".toList) = .done "C < D->E >" behind ∧
      skipBlank behind = ")".toList := by
  have read : parse "traits(Fn(A) ->\n  B-, C <  D->E > ), include(posix, linux)" true ⟨1, 1⟩ =
      .ok ⟨[.linux, .posix], [], ["Fn(A) -> B-", "C < D->E >"], ⟨1, 1⟩⟩ :=
    eq_ok_of_toOption (by decide +kernel)
  obtain ⟨again, fixed⟩ := parse_write read
  exact ⟨again [.posix, .linux] [] (.swap _ _ _) .nil ⟨7, 1⟩,
    fixed _ (by simp) ')' [] (Or.inr rfl)⟩

end PlatformGate.OptionBlock
