import PlatformGate.Proofs.Options.Block
import PlatformGate.Proofs.Options.Nesting

/-! Lists of well-formed trait paths. The grammar of option text takes more than these, since it
does not ask whether brackets nest. Here arguments and return types are nested text, and a list of
such paths is read as exactly the paths that it was written from. -/

namespace PlatformGate.Options

open Text

def NestedApplied (kind : BracketKind) (text : List Char) : Prop :=
  ∃ name w n, isName name = true ∧ AllBlank w ∧ Nested n ∧
    text = name ++ (w ++ kind.opening :: (n ++ [kind.closing]))

def WellFormedSegment (text : List Char) : Prop :=
  isName text = true ∨ NestedApplied .angle text

/-- The parts of a well-formed path. The form of the function traits can only be the last, and a
return type is nested text that is not blank. -/
inductive WellFormedSegments : List Char → Prop
  | single {s : List Char} : WellFormedSegment s → WellFormedSegments s
  | call {s : List Char} : NestedApplied .parenthesis s → WellFormedSegments s
  | returning {s w r : List Char} : NestedApplied .parenthesis s → AllBlank w → NestedType r →
      ¬AllBlank r → WellFormedSegments (s ++ (w ++ '-' :: '>' :: r))
  | joined {s w w' t : List Char} : WellFormedSegment s → AllBlank w → AllBlank w' →
      WellFormedSegments t → WellFormedSegments (s ++ (w ++ ':' :: ':' :: (w' ++ t)))

inductive WellFormedPath : List Char → Prop
  | relative {s : List Char} : WellFormedSegments s → WellFormedPath s
  | absolute {w s : List Char} : AllBlank w → WellFormedSegments s →
      WellFormedPath (':' :: ':' :: (w ++ s))

/-- A well-formed path as an item of a list, where it stands for itself. -/
def PathItem (text path : List Char) : Prop := WellFormedPath text ∧ path = text

theorem NestedApplied.applied {kind : BracketKind} {s : List Char} (h : NestedApplied kind s) :
    Applied kind s := by
  obtain ⟨name, w, n, hn, hw, nested, rfl⟩ := h
  exact ⟨name, w, _, hn, hw, BracketKind.encloses_of_nested nested, rfl⟩

theorem WellFormedSegment.segmentText {s : List Char} (h : WellFormedSegment s) :
    SegmentText s :=
  h.imp_right NestedApplied.applied

theorem exists_resultText {r : List Char} (h : NestedType r) (nonblank : ¬AllBlank r) :
    ∃ w s w', AllBlank w ∧ ResultText s ∧ AllBlank w' ∧ r = w ++ (s ++ w') := by
  obtain ⟨w, hw, split⟩ := exists_blank_append r
  have solid := startsSolid_skipBlank fun empty => nonblank (skipBlank_eq_nil.mp empty)
  obtain ⟨s, w', starts, ends, hw', middle⟩ := exists_append_blank solid
  have whole : r = w ++ (s ++ w') := by rw [split, middle]
  refine ⟨w, s, w', hw, ⟨starts, ends, ?_⟩, hw', whole⟩
  -- The white space around the type leaves the depth as it is.
  have balanced : depthBehind? none 0 r = some 0 := depthBehind?_of_nests h (by simp)
  have front : SameBehind (w.getLast?.or none) none := by
    refine iff_of_false (fun minus => ?_) (by simp)
    rw [Option.or_none] at minus
    exact hw.not_mem rfl (List.mem_of_getLast? minus)
  rwa [whole, depthBehind?_append, depthBehind?_allBlank hw, Option.bind_some,
    depthBehind?_append_blank hw', depthBehind?_congr front] at balanced

theorem WellFormedSegments.exists_segments {s : List Char} (h : WellFormedSegments s) :
    ∃ t w, Segments t ∧ AllBlank w ∧ s = t ++ w := by
  induction h with
  | @single s hs => exact ⟨s, [], .single hs.segmentText, allBlank_nil, by simp⟩
  | @call s hs => exact ⟨s, [], .call hs.applied, allBlank_nil, by simp⟩
  | @returning s w r hs hw nested nonblank =>
    obtain ⟨v, t, v', hv, ht, hv', rfl⟩ := exists_resultText nested nonblank
    refine ⟨_, v', .returning hs.applied hw hv ht, hv', ?_⟩
    simp only [List.append_assoc, List.cons_append]
  | @joined s w w' t hs hw hw' _ ih =>
    obtain ⟨u, v, hu, hv, rfl⟩ := ih
    refine ⟨_, v, .joined hs.segmentText hw hw' hu, hv, ?_⟩
    simp only [List.append_assoc, List.cons_append]

theorem WellFormedSegments.startsSolid {s : List Char} (h : WellFormedSegments s) :
    StartsSolid s := by
  obtain ⟨t, w, ht, -, rfl⟩ := h.exists_segments
  exact ht.startsSolid.append w

theorem WellFormedPath.exists_pathText {s : List Char} (h : WellFormedPath s) :
    ∃ t w, PathText t ∧ AllBlank w ∧ s = t ++ w := by
  cases h with
  | relative hs =>
    obtain ⟨t, w, ht, hw, rfl⟩ := hs.exists_segments
    exact ⟨t, w, .relative ht, hw, rfl⟩
  | @absolute v s hv hs =>
    obtain ⟨t, w, ht, hw, rfl⟩ := hs.exists_segments
    refine ⟨_, w, .absolute hv ht, hw, ?_⟩
    simp only [List.append_assoc, List.cons_append]

def keptPath (path : List Char) : String := String.ofList (squeeze path)

theorem PathItem.exists_traitText {s path : List Char} (h : PathItem s path) :
    ∃ t w, TraitText t (keptPath path) ∧ AllBlank w ∧ s = t ++ w := by
  obtain ⟨isPath, rfl⟩ := h
  obtain ⟨t, w, ht, hw, rfl⟩ := isPath.exists_pathText
  refine ⟨t, w, ⟨ht, ?_⟩, hw, rfl⟩
  rw [keptPath, squeeze_append ht.startsSolid ht.endsSolid hw]

theorem separates_closing {s : List Char} : Separates s ')' ↔ s.getLast? ≠ some '-' := by
  simp [Separates]

theorem WellFormedSegments.separates {s : List Char} (h : WellFormedSegments s) :
    Separates s ')' := by
  induction h with
  | single hs => exact separates_closing.mpr hs.segmentText.getLast?_ne
  | call hs => exact separates_closing.mpr hs.applied.getLast?_ne
  | @returning s w r _ _ nested _ =>
    have head := (separates_of_nests nested).cons (d := '>') (by decide)
    have arrow : Separates ('-' :: '>' :: r) ')' :=
      (separates_append (s := ['-']) (by simp)).mpr head
    exact (separates_append (by simp)).mpr ((separates_append (by simp)).mpr arrow)
  | @joined s w w' t _ _ _ ht ih =>
    have last := (separates_append (s := w') ht.startsSolid.ne_nil).mpr ih
    have colons : Separates (':' :: ':' :: (w' ++ t)) ')' :=
      Separates.cons (by decide) (Separates.cons (by decide) last)
    exact (separates_append (by simp)).mpr ((separates_append (by simp)).mpr colons)

theorem WellFormedPath.separates {s : List Char} (h : WellFormedPath s) : Separates s ')' := by
  cases h with
  | relative hs => exact hs.separates
  | @absolute w s hw hs =>
    have last := (separates_append (s := w) hs.startsSolid.ne_nil).mpr hs.separates
    exact Separates.cons (by decide) (Separates.cons (by decide) last)

variable {α β : Type} {Item : List Char → α → Prop} {Kept : List Char → β → Prop} {f : α → β}

theorem Row.map_spaced
    (item : ∀ s a, Item s a → ∃ t w, Kept t (f a) ∧ AllBlank w ∧ s = t ++ w)
    {s : List Char} {as : List α} (h : Row Item s as) :
    ∃ t w, Row Kept t (as.map f) ∧ AllBlank w ∧ s = t ++ w := by
  induction h with
  | one hs =>
    obtain ⟨t, w, ht, hw, rfl⟩ := item _ _ hs
    exact ⟨t, w, .one ht, hw, rfl⟩
  | @ended s v a hs hv =>
    obtain ⟨t, w, ht, hw, rfl⟩ := item _ _ hs
    refine ⟨_, [], .ended ht (hw.append hv), allBlank_nil, ?_⟩
    simp only [List.append_assoc, List.append_nil]
  | @cons s v v' _ a as hs hv hv' _ ih =>
    obtain ⟨t, w, ht, hw, rfl⟩ := item _ _ hs
    obtain ⟨u, w', hu, hw', rfl⟩ := ih
    refine ⟨_, w', .cons ht (hw.append hv) hv' hu, hw', ?_⟩
    simp only [List.append_assoc, List.cons_append]

theorem Series.map_spaced
    (item : ∀ s a, Item s a → ∃ t w, Kept t (f a) ∧ AllBlank w ∧ s = t ++ w)
    {s : List Char} {as : List α} (h : Series Item s as) : Series Kept s (as.map f) := by
  cases h with
  | empty hw => exact .empty hw
  | row hw row hw' =>
    obtain ⟨t, v, kept, hv, rfl⟩ := row.map_spaced item
    rw [List.append_assoc]
    exact .row hw kept (hv.append hw')

theorem Separates.blank_append {w t : List Char} {c : Char} (hw : AllBlank w)
    (h : Separates t c) : Separates (w ++ t) c := by
  induction w with
  | nil => exact h
  | cons d w ih =>
    have minus : d ≠ '-' := ne_of_isBlank (hw d List.mem_cons_self) rfl
    exact (ih fun e he => hw e (List.mem_cons_of_mem d he)).cons minus

theorem Row.separates (item : ∀ s a, Item s a → Separates s ')') {s : List Char} {as : List α}
    (h : Row Item s as) : Separates s ')' := by
  induction h with
  | one hs => exact item _ _ hs
  | ended hs hw =>
    rw [separates_append (by simp), separates_append (by simp)]
    exact separates_of_not_mem (Or.inr rfl) (by simp)
  | cons hs hw hw' _ ih =>
    rw [separates_append (by simp), separates_append (by simp)]
    exact (ih.blank_append hw').cons (by decide)

theorem Series.separates (item : ∀ s a, Item s a → Separates s ')') {s : List Char} {as : List α}
    (h : Series Item s as) : Separates s ')' := by
  cases h with
  | empty hw => exact separates_of_not_mem (Or.inr rfl) (hw.not_mem rfl)
  | row hw row hw' =>
    have last := separates_closing.mp (row.separates item)
    exact (separates_append_blank (Or.inr rfl) last hw').blank_append hw

end PlatformGate.Options

namespace PlatformGate.OptionBlock

open Options Text

/-- A list of well-formed trait paths, with any white space and possibly a comma behind the last,
is accepted, and the paths are kept in order, each with its white space folded. -/
theorem parse_traits {inner : List Char} {paths : List (List Char)}
    (h : Series PathItem inner paths) (location : Location) :
    parse ("traits(" ++ String.ofList inner ++ ")") true location =
      .ok ⟨[.all], [], paths.map fun path => String.ofList (squeeze path), location⟩ := by
  have ends : Separates inner ')' := h.separates fun s path item => item.1.separates
  have clause : ClauseText true (listing "traits" [] inner) (.traits (paths.map keptPath)) :=
    .traits rfl allBlank_nil (h.map_spaced fun _ _ item => item.exists_traitText) ends
  have block : BlockText true (listing "traits" [] inner) [.traits (paths.map keptPath)] := by
    simpa [BlockText] using Series.single allBlank_nil clause allBlank_nil
  have text : ("traits(" ++ String.ofList inner ++ ")").toList = listing "traits" [] inner := by
    simp [listing]
  refine parse_eq_ok.mpr ⟨_, text ▸ block, ?_⟩
  simp [ofClauses, includedBy, excludedBy, traitsBy, Group.normalize, keptPath]

theorem parse_traits_of_functions :
    WellFormedPath ":: o::Fn(A, fn() ->B)\n -> V<(A,\tB)> ".toList ∧
      WellFormedPath "Into<A>".toList ∧
      parse "traits(:: o::Fn(A, fn() ->B)\n -> V<(A,\tB)> ,Into<A> ,\n)" true ⟨3, 5⟩ =
        .ok ⟨[.all], [], [":: o::Fn(A, fn() ->B) -> V<(A, B)>", "Into<A>"], ⟨3, 5⟩⟩ := by
  have call : NestedApplied .parenthesis "Fn(A, fn() ->B)".toList :=
    ⟨"Fn".toList, [], "A, fn() ->B".toList, by decide +kernel⟩
  have returning : WellFormedSegments "Fn(A, fn() ->B)\n -> V<(A,\tB)> ".toList :=
    .returning (w := "\n ".toList) (r := " V<(A,\tB)> ".toList) call (by decide +kernel)
      (by decide +kernel) (by decide +kernel)
  have first : WellFormedPath ":: o::Fn(A, fn() ->B)\n -> V<(A,\tB)> ".toList :=
    .absolute allBlank_space (.joined (s := "o".toList) (.inl (by decide)) allBlank_nil
      allBlank_nil returning)
  have applied : NestedApplied .angle "Into<A>".toList :=
    ⟨"Into".toList, [], "A".toList, by decide +kernel⟩
  have second : WellFormedPath "Into<A>".toList := .relative (.single (.inr applied))
  have last : AllBlank ['\n'] := by decide
  have items : PathItem _ _ ∧ PathItem _ _ := ⟨⟨first, rfl⟩, ⟨second, rfl⟩⟩
  have series : Series PathItem ":: o::Fn(A, fn() ->B)\n -> V<(A,\tB)> ,Into<A> ,\n".toList _ :=
    .cons allBlank_nil items.1 allBlank_nil
      (.row allBlank_nil (.ended items.2 allBlank_space) last)
  have read := parse_traits series ⟨3, 5⟩
  exact ⟨first, second, read⟩

end PlatformGate.OptionBlock
