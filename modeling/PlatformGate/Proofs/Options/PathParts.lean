import PlatformGate.Proofs.Options.Balance
import PlatformGate.Proofs.Options.Canonical
import PlatformGate.Proofs.Options.Permission

/-! The brackets of accepted trait paths. They stand in the parts of a path that are skipped without
being analysed. Arguments are matched among their own kind and return types by all kinds together,
so a path is balanced exactly if each of these parts is, and need not be. -/

namespace PlatformGate.Options

open Text

inductive Part where
  | arguments (kind : BracketKind) (inner : List Char)
  | result (text : List Char)

namespace Part

def text : Part → List Char
  | arguments _ inner => inner
  | result text => text

/-- How far the brackets of a part nest. Arguments are matched among their own kind and a return
type by all kinds together. -/
def IsMatched : Part → Prop
  | arguments kind inner => kind.Nests inner
  | result text => HidesClosing text ∨ NestsBlindly text

end Part

def HasArguments (kind : BracketKind) (inner text : List Char) : Prop :=
  ∃ name w, isName name = true ∧ AllBlank w ∧
    ¬(kind.hasArrows = true ∧ inner.getLast? = some '-') ∧
    text = name ++ (w ++ kind.opening :: (inner ++ [kind.closing]))

inductive SegmentParts : List Char → List Part → Prop
  | name {s : List Char} : isName s = true → SegmentParts s []
  | arguments {inner s : List Char} : HasArguments .angle inner s →
      SegmentParts s [.arguments .angle inner]

inductive SegmentsParts : List Char → List Part → Prop
  | single {s : List Char} {parts : List Part} : SegmentParts s parts → SegmentsParts s parts
  | call {inner s : List Char} : HasArguments .parenthesis inner s →
      SegmentsParts s [.arguments .parenthesis inner]
  | returning {inner s w w' r : List Char} : HasArguments .parenthesis inner s → AllBlank w →
      AllBlank w' → SegmentsParts (s ++ (w ++ '-' :: '>' :: (w' ++ r)))
        [.arguments .parenthesis inner, .result r]
  | joined {s w w' t : List Char} {parts others : List Part} : SegmentParts s parts →
      AllBlank w → AllBlank w' → SegmentsParts t others →
      SegmentsParts (s ++ (w ++ ':' :: ':' :: (w' ++ t))) (parts ++ others)

/-- The path has these parts, and no brackets apart from them and those around arguments. -/
inductive PathParts : List Char → List Part → Prop
  | relative {s : List Char} {parts : List Part} : SegmentsParts s parts → PathParts s parts
  | absolute {w s : List Char} {parts : List Part} : AllBlank w → SegmentsParts s parts →
      PathParts (':' :: ':' :: (w ++ s)) parts

theorem Applied.exists_hasArguments {kind : BracketKind} {s : List Char} (h : Applied kind s) :
    ∃ inner, HasArguments kind inner s ∧ kind.Nests inner := by
  obtain ⟨name, w, a, hn, hw, ha, rfl⟩ := h
  obtain ⟨inner, rfl, nests, last⟩ := ha.exists_nests
  exact ⟨inner, ⟨name, w, hn, hw, last, rfl⟩, nests⟩

theorem SegmentText.exists_parts {s : List Char} (h : SegmentText s) :
    ∃ parts, SegmentParts s parts ∧ ∀ part ∈ parts, part.IsMatched := by
  rcases h with name | applied
  · exact ⟨[], .name name, List.forall_mem_nil _⟩
  · obtain ⟨inner, arguments, nests⟩ := applied.exists_hasArguments
    exact ⟨_, .arguments arguments, List.forall_mem_singleton.mpr nests⟩

theorem ResultText.isMatched {r : List Char} (h : ResultText r) : (Part.result r).IsMatched :=
  or_iff_not_imp_left.mpr h.nestsBlindly

theorem Segments.exists_parts {s : List Char} (h : Segments s) :
    ∃ parts, SegmentsParts s parts ∧ ∀ part ∈ parts, part.IsMatched := by
  induction h with
  | single hs =>
    obtain ⟨parts, divided, matched⟩ := hs.exists_parts
    exact ⟨parts, .single divided, matched⟩
  | call hs =>
    obtain ⟨inner, arguments, nests⟩ := hs.exists_hasArguments
    exact ⟨_, .call arguments, List.forall_mem_singleton.mpr nests⟩
  | returning hs hw hw' hr =>
    obtain ⟨inner, arguments, nests⟩ := hs.exists_hasArguments
    exact ⟨_, .returning arguments hw hw',
      List.forall_mem_cons.mpr ⟨nests, List.forall_mem_singleton.mpr hr.isMatched⟩⟩
  | joined hs hw hw' _ ih =>
    obtain ⟨parts, divided, matched⟩ := hs.exists_parts
    obtain ⟨others, later, matched'⟩ := ih
    exact ⟨_, .joined divided hw hw' later, List.forall_mem_append.mpr ⟨matched, matched'⟩⟩

theorem PathText.exists_parts {s : List Char} (h : PathText s) :
    ∃ parts, PathParts s parts ∧ ∀ part ∈ parts, part.IsMatched := by
  cases h with
  | relative hs =>
    obtain ⟨parts, divided, matched⟩ := hs.exists_parts
    exact ⟨parts, .relative divided, matched⟩
  | absolute hw hs =>
    obtain ⟨parts, divided, matched⟩ := hs.exists_parts
    exact ⟨parts, .absolute hw divided, matched⟩

def IsPlain (text : List Char) : Prop := ∀ c ∈ text, opens c = false ∧ closes c = false ∧ c ≠ '-'

theorem IsPlain.brackets_eq_nil {w : List Char} (h : IsPlain w) : brackets none w = [] :=
  Options.brackets_eq_nil fun c mem => ⟨(h c mem).1, (h c mem).2.1⟩

theorem IsPlain.brackets_append {w : List Char} (h : IsPlain w) (t : List Char) :
    brackets none (w ++ t) = brackets none t := by
  rw [brackets_append_of_last fun minus => (h _ (List.mem_of_getLast? minus)).2.2 rfl,
    h.brackets_eq_nil, List.nil_append]

theorem isPlain_of_test {test : Char → Bool} {w : List Char}
    (apart : ['(', '[', '<', ')', ']', '>', '-'].any test = false)
    (h : ∀ c ∈ w, test c = true) : IsPlain w := by
  intro c mem
  have other : ∀ d ∈ ['(', '[', '<', ')', ']', '>', '-'], c ≠ d := by
    rintro d special rfl
    exact List.any_eq_false.mp apart c special (h c mem)
  simpa [opens, closes, and_assoc] using other

theorem isPlain_of_allBlank {w : List Char} (h : AllBlank w) : IsPlain w :=
  isPlain_of_test rfl h

theorem isPlain_of_isName {name : List Char} (h : isName name = true) : IsPlain name :=
  isPlain_of_test rfl (isNamePart_of_mem h)

theorem brackets_colons {w : List Char} (hw : AllBlank w) (t : List Char) :
    brackets none (':' :: ':' :: (w ++ t)) = brackets none t :=
  calc brackets none (':' :: ':' :: (w ++ t))
    _ = brackets none (w ++ t) := brackets_append_of_last (s := [':', ':']) (by decide) (w ++ t)
    _ = brackets none t := (isPlain_of_allBlank hw).brackets_append t

def Part.share : Part → List Char
  | arguments kind inner => kind.opening :: (brackets none inner ++ [kind.closing])
  | result text => brackets none text

section

variable {kind : BracketKind} {inner s : List Char}

theorem HasArguments.brackets_eq (h : HasArguments kind inner s) :
    brackets none s = (Part.arguments kind inner).share := by
  obtain ⟨name, w, hn, hw, last, rfl⟩ := h
  have behind : SameBehind (some kind.opening) none :=
    iff_of_false (by cases kind <;> decide) (by decide)
  have closed : brackets inner.getLast? [kind.closing] = [kind.closing] :=
    if_pos (Or.inr (BracketKind.isBracket_closing last))
  rw [(isPlain_of_isName hn).brackets_append, (isPlain_of_allBlank hw).brackets_append, brackets,
    if_pos (Or.inl kind.opens_opening), brackets_congr behind, brackets_append, Option.or_none,
    closed]
  rfl

theorem HasArguments.getLast?_ne (h : HasArguments kind inner s) : s.getLast? ≠ some '-' := by
  obtain ⟨name, w, -, -, -, rfl⟩ := h
  simpa [List.getLast?_append, List.getLast?_cons] using kind.closing_ne_minus

end

section

variable {s : List Char} {parts : List Part}

theorem SegmentParts.brackets_eq (h : SegmentParts s parts) :
    brackets none s = parts.flatMap Part.share := by
  cases h with
  | name hn => exact (isPlain_of_isName hn).brackets_eq_nil
  | arguments ha => rw [ha.brackets_eq, List.flatMap_singleton]

theorem SegmentParts.getLast?_ne (h : SegmentParts s parts) : s.getLast? ≠ some '-' := by
  cases h with
  | name hn => exact fun minus => minus_not_mem_name hn (List.mem_of_getLast? minus)
  | arguments ha => exact ha.getLast?_ne

theorem SegmentsParts.brackets_eq (h : SegmentsParts s parts) :
    brackets none s = parts.flatMap Part.share := by
  induction h with
  | single hs => exact hs.brackets_eq
  | call ha => rw [ha.brackets_eq, List.flatMap_singleton]
  | @returning inner s w w' r ha hw hw' =>
    have arrow : brackets none ('-' :: '>' :: (w' ++ r)) = brackets none (w' ++ r) :=
      brackets_append_of_last (s := ['-', '>']) (by decide) (w' ++ r)
    rw [brackets_append_of_last ha.getLast?_ne, (isPlain_of_allBlank hw).brackets_append, arrow,
      (isPlain_of_allBlank hw').brackets_append, ha.brackets_eq, List.flatMap_cons,
      List.flatMap_singleton]
    rfl
  | joined hs hw hw' _ ih =>
    rw [brackets_append_of_last hs.getLast?_ne, (isPlain_of_allBlank hw).brackets_append,
      brackets_colons hw', hs.brackets_eq, ih, List.flatMap_append]

theorem PathParts.brackets_eq (h : PathParts s parts) :
    brackets none s = parts.flatMap Part.share := by
  cases h with
  | relative hs => exact hs.brackets_eq
  | absolute hw hs => rw [brackets_colons hw, hs.brackets_eq]

end

theorem nest_share_append {kind : BracketKind} {inner rest : List Char}
    (matched : kind.Nests inner) :
    nest paired [] ((Part.arguments kind inner).share ++ rest) = true ↔
      Balanced inner ∧ nest paired [] rest = true := by
  rw [Part.share, List.cons_append, List.append_assoc, List.singleton_append]
  exact BracketKind.nest_pair_append matched

theorem nest_share {kind : BracketKind} {inner : List Char} (matched : kind.Nests inner) :
    nest paired [] (Part.arguments kind inner).share = true ↔ Balanced inner := by
  rw [← List.append_nil (Part.arguments kind inner).share, nest_share_append matched]
  exact and_iff_left rfl

section

variable {s : List Char} {parts : List Part}

theorem SegmentsParts.nest_share_iff (h : SegmentsParts s parts)
    (matched : ∀ part ∈ parts, part.IsMatched) :
    nest paired [] (parts.flatMap Part.share) = true ↔ ∀ part ∈ parts, Balanced part.text := by
  induction h with
  | single hs =>
    cases hs with
    | name => exact iff_of_true rfl (List.forall_mem_nil _)
    | arguments ha =>
      rw [List.flatMap_singleton, List.forall_mem_singleton]
      exact nest_share (matched _ List.mem_cons_self)
  | call ha =>
    rw [List.flatMap_singleton, List.forall_mem_singleton]
    exact nest_share (matched _ List.mem_cons_self)
  | returning =>
    rw [List.flatMap_cons, List.flatMap_singleton, List.forall_mem_cons, List.forall_mem_singleton]
    exact nest_share_append (matched _ List.mem_cons_self)
  | joined hs _ _ _ ih =>
    obtain ⟨first, later⟩ := List.forall_mem_append.mp matched
    rw [List.flatMap_append, List.forall_mem_append, ← ih later]
    cases hs with
    | name => exact (and_iff_right (List.forall_mem_nil _)).symm
    | arguments ha =>
      rw [List.flatMap_singleton, List.forall_mem_singleton]
      exact nest_share_append (first _ List.mem_cons_self)

theorem PathParts.balanced_iff (h : PathParts s parts) (matched : ∀ part ∈ parts, part.IsMatched) :
    Balanced s ↔ ∀ part ∈ parts, Balanced part.text := by
  rw [Balanced, h.brackets_eq]
  cases h with
  | relative hs => exact hs.nest_share_iff matched
  | absolute _ hs => exact hs.nest_share_iff matched

end

/-- A path with parts that are matched. It stands for itself with each run of white space made one
space. -/
def MatchedTrait (text : List Char) (path : String) : Prop :=
  (∃ parts, PathParts text parts ∧ ∀ part ∈ parts, part.IsMatched) ∧
    path = String.ofList (foldRuns false text)

inductive MatchedClause : List Char → Clause → Prop
  | groups {s : List Char} {clause : Clause} : ClauseText false s clause → MatchedClause s clause
  | traits {w inner : List Char} {paths : List String} : AllBlank w →
      Series MatchedTrait inner paths → MatchedClause (listing "traits" w inner) (.traits paths)

def MatchedBlock : List Char → List Clause → Prop := Series MatchedClause

theorem TraitText.matchedTrait {s : List Char} {path : String} (h : TraitText s path) :
    MatchedTrait s path := ⟨h.1.exists_parts, h.2⟩

theorem ClauseText.matchedClause {s : List Char} {clause : Clause} (h : ClauseText true s clause) :
    MatchedClause s clause := by
  cases h with
  | includes hw inner => exact .groups (.includes hw inner)
  | excludes hw inner => exact .groups (.excludes hw inner)
  | traits _ hw inner => exact .traits hw (inner.imp fun _ _ => TraitText.matchedTrait)

end PlatformGate.Options

namespace PlatformGate.OptionBlock

open Options

/-- The brackets of an accepted path are matched part by part, and no text is accepted in which they
are not. All brackets of the path nest if and only if those of each part do. -/
theorem traits_matched (text : String) (location : Location) :
    (∀ block, parse text true location = .ok block → ∀ path ∈ block.traits,
      ∃ parts, PathParts path.toList parts ∧ (∀ part ∈ parts, part.IsMatched) ∧
        (Balanced path.toList ↔ ∀ part ∈ parts, Balanced part.text)) ∧
    ((∃ diagnostic, parse text true location = .error diagnostic) ∨
      ∃ clauses, MatchedBlock text.toList clauses ∧
        parse text true location = .ok (ofClauses clauses location)) := by
  constructor
  · intro block h path mem
    obtain ⟨parts, divided, matched⟩ := (traitText_of_parse h path mem).1.exists_parts
    exact ⟨parts, divided, matched, divided.balanced_iff matched⟩
  · cases read : parse text true location with
    | error diagnostic => exact .inl ⟨diagnostic, rfl⟩
    | ok block =>
      obtain ⟨clauses, derived, rfl⟩ := parse_eq_ok.mp read
      exact .inr ⟨clauses, derived.imp fun _ _ => ClauseText.matchedClause, rfl⟩

theorem traits_matched_of_mixed_kinds :
    ∀ path ∈ ["A<(>", "Fn(<) -> (B]"], ∃ parts, PathParts path.toList parts ∧
      (∀ part ∈ parts, part.IsMatched) ∧ ∃ part ∈ parts, ¬Balanced part.text := by
  have read : parse "traits(A<(>, Fn(<) -> (B])" true ⟨0, 0⟩ =
      .ok ⟨[.all], [], ["A<(>", "Fn(<) -> (B]"], ⟨0, 0⟩⟩ := eq_ok_of_toOption (by decide +kernel)
  have mixed : ∀ path ∈ ["A<(>", "Fn(<) -> (B]"], ¬Balanced path.toList := by decide +kernel
  intro path mem
  obtain ⟨parts, divided, matched, same⟩ := (traits_matched _ _).1 _ read path mem
  obtain ⟨part, isPart, unbalanced⟩ := not_forall₂.mp (mt same.mpr (mixed path mem))
  exact ⟨parts, divided, matched, part, isPart, unbalanced⟩

/-- A path is accepted with a parenthesis that is left open, since only angle brackets count. -/
theorem not_balanced_of_mixed_kinds :
    ∃ block, parse "traits(A<(>)" true ⟨0, 0⟩ = .ok block ∧
      ∃ path ∈ block.traits,
        ¬Balanced path.toList ∧ ¬BracketKind.parenthesis.Nests path.toList := by
  have read : parse "traits(A<(>)" true ⟨0, 0⟩ = .ok ⟨[.all], [], ["A<(>"], ⟨0, 0⟩⟩ :=
    eq_ok_of_toOption (by decide +kernel)
  exact ⟨_, read, "A<(>", List.mem_singleton_self _, by decide +kernel, by decide +kernel⟩

end PlatformGate.OptionBlock
