import PlatformGate.Declaration.UseTree
import PlatformGate.Proofs.Text.Split
import PlatformGate.Proofs.Text.Word

/-! Trees of `use` declarations that have been read. Written out again, with its leading colons, a
tree is read as itself. A tree that is one identifier is a name, but for the identifier `as`, raw or
not, whose name is taken for the sign of a renaming. -/

namespace PlatformGate

open Text

namespace UseTree

def written (tree : UseTree) : String := (if tree.leadingColons then "::" else "") ++ tree.text

theorem ne_nil_of_classify {body : List Char} {shape : UseShape}
    (h : UseShape.classify body = some shape) : body ≠ [] := by
  rintro rfl
  have none : UseShape.classify [] = none := by decide
  cases none.symm.trans h

theorem parse_of_colons {text : String} {body : List Char} {shape : UseShape}
    (outer : trimmed text.toList = ':' :: ':' :: body)
    (recognized : UseShape.classify (trimmed body) = some shape) :
    parse text = .ok ⟨shape, String.ofList (trimmed body), true⟩ := by
  have colons : "::".toList.isPrefixOf (':' :: ':' :: body) = true := by simp
  simp only [parse, outer, colons, if_true, List.drop_succ_cons, List.drop_zero, recognized]

theorem parse_of_plain {text : String} {shape : UseShape}
    (plain : "::".toList.isPrefixOf (trimmed text.toList) = false)
    (recognized : UseShape.classify (trimmed text.toList) = some shape) :
    parse text = .ok ⟨shape, String.ofList (trimmed text.toList), false⟩ := by
  simp only [parse, plain, Bool.false_eq_true, if_false, recognized]

/-- The text behind leading colons is trimmed by itself, so it may only be put behind them again
without the white space that has stood there. -/
theorem parse_written {text : String} {tree : UseTree} (h : parse text = .ok tree) :
    Filled tree.written ∧ parse tree.written = .ok tree := by
  unfold parse at h
  simp only at h
  cases colons : "::".toList.isPrefixOf (trimmed text.toList) with
  | true =>
    simp only [colons, if_true] at h
    split at h
    next shape recognized =>
      cases h
      generalize (trimmed text.toList).drop 2 = behind at recognized ⊢
      have letters : written ⟨shape, String.ofList (trimmed behind), true⟩ =
          String.ofList (':' :: ':' :: trimmed behind) := by
        apply String.toList_injective
        rw [written, if_pos rfl, String.toList_append, String.toList_ofList, String.toList_ofList,
          String.toList_ofList]
        rfl
      -- What stands behind the colons was trimmed by itself, so the whole has nothing to lose.
      have kept : trimmed (':' :: ':' :: trimmed behind) = ':' :: ':' :: trimmed behind := by
        have ends := (solid_trimmed (ne_nil_of_classify recognized)).2.append [':', ':']
        simpa using trimmed_append (startsSolid_cons (by decide) _) ends allBlank_nil
      rw [letters]
      refine ⟨kept ▸ filled_ofList (kept.symm ▸ List.cons_ne_nil _ _), ?_⟩
      have body : UseShape.classify (trimmed (trimmed behind)) = some shape := by
        rwa [trimmed_trimmed]
      have outer : trimmed (String.ofList (':' :: ':' :: trimmed behind)).toList =
          ':' :: ':' :: trimmed behind := by
        rw [String.toList_ofList, kept]
      rw [parse_of_colons outer body, trimmed_trimmed]
    next => cases h
  | false =>
    simp only [colons, Bool.false_eq_true, if_false] at h
    split at h
    next shape recognized =>
      cases h
      have letters : written ⟨shape, String.ofList (trimmed text.toList), false⟩ =
          String.ofList (trimmed text.toList) := String.empty_append
      have kept : trimmed (String.ofList (trimmed text.toList)).toList = trimmed text.toList := by
        rw [String.toList_ofList, trimmed_trimmed]
      rw [letters]
      refine ⟨filled_ofList (ne_nil_of_classify recognized), ?_⟩
      rw [parse_of_plain (kept.symm ▸ colons) (kept.symm ▸ recognized), kept]
    next => cases h

end UseTree

def IsAs (text : String) : Prop := text = "as" ∨ text = "r#as"

instance (text : String) : Decidable (IsAs text) :=
  inferInstanceAs (Decidable (text = "as" ∨ text = "r#as"))

theorem isAs_iff {text : String} : IsAs text ↔ dropRawMark text.toList = "as".toList := by
  constructor
  · rintro (rfl | rfl) <;> decide
  · intro h
    rcases dropRawMark_cases text.toList with raw | plain
    · rw [h] at raw
      exact .inr (String.toList_injective raw)
    · rw [h] at plain
      exact .inl (String.toList_injective plain)

theorem hasWholeWord_as {text : String} (h : IsIdentifier text) :
    hasWholeWord "as".toList none text.toList = true ↔ IsAs text := by
  have letters : ∀ c ∈ dropRawMark text.toList, isWordChar c = true := fun c mem =>
    isWordChar_of_isNamePart (isNamePart_of_mem h.2 c mem)
  have word : "as".toList ≠ [] := by decide
  have outside : (none : Option Char).any isWordChar = false := rfl
  rcases dropRawMark_cases text.toList with raw | plain
  · -- The mark ends the word `r`, so the name behind it is a word of its own.
    have letter : isWordChar 'r' = true := isWordChar_of_isNamePart (by decide)
    have mark : (some '#').any isWordChar = false := by
      rw [Option.any_some, Bool.eq_false_iff]
      exact fun inside => absurd (le_code_of_isWordChar inside) (by decide)
    have behind : hasWholeWord "as".toList none ('r' :: '#' :: dropRawMark text.toList) =
        hasWholeWord "as".toList (some '#') (dropRawMark text.toList) := by
      simp [hasWholeWord, letter]
    rw [isAs_iff, ← hasWholeWord_of_letters word mark letters, ← behind, ← raw]
  · rw [isAs_iff, ← hasWholeWord_of_letters word outside letters, ← plain]

namespace UseShape

/-- No sign of another shape stands in an identifier, except for the word of a renaming. -/
theorem classify_identifier {text : String} (h : IsIdentifier text) :
    classify text.toList = some (if IsAs text then .rename else .name) := by
  have absent : ∀ c, isNamePart c = false → c ≠ '#' → c ∉ text.toList := fun c other mark mem => by
    rcases h.forall_mem c mem with part | same
    · rw [part] at other
      cases other
    · exact mark same
  have brace : ¬text.toList.contains '\x7b' = true := by
    rw [List.contains_iff_mem]
    exact absent _ (by decide) (by decide)
  have star : text.toList.getLast? ≠ some '*' := fun last =>
    absent '*' (by decide) (by decide) (List.mem_of_getLast? last)
  have colons : hasPart "::".toList text.toList = false :=
    hasPart_of_not_mem (c := ':') (by decide) (absent ':' (by decide) (by decide))
  have identifier : isIdentifier (String.ofList text.toList) = true := by
    rw [String.ofList_toList]
    exact h.isIdentifier
  simp only [classify, if_neg brace, if_neg star, hasWholeWord_as h, colons, identifier,
    Bool.false_eq_true, if_false, if_true]
  split_ifs <;> rfl

theorem isIdentifier_of_classify {text : String} (kept : trim text = text)
    (h : classify text.toList = some .name) : IsIdentifier text := by
  rw [← isIdentifier_of_trim kept]
  by_contra other
  rw [classify, String.ofList_toList, if_neg other] at h
  split_ifs at h <;> cases h

end UseShape

namespace UseTree

theorem classify_of_parse {text : String} {tree : UseTree} (h : parse text = .ok tree) :
    UseShape.classify tree.text.toList = some tree.shape ∧ Filled tree.text ∧
      (tree.leadingColons = false → tree.text = trim text) := by
  unfold parse at h
  simp only at h
  split at h
  next shape recognized =>
    cases h
    split_ifs at recognized ⊢ with colons
    · exact ⟨by rwa [String.toList_ofList], filled_ofList (ne_nil_of_classify recognized),
        fun plain => by rw [colons] at plain; cases plain⟩
    · exact ⟨by rwa [String.toList_ofList], filled_ofList (ne_nil_of_classify recognized),
        fun _ => rfl⟩
  next => cases h

theorem parse_identifier {text : String} (h : IsIdentifier (trim text)) :
    parse text = .ok ⟨if IsAs (trim text) then .rename else .name, trim text, false⟩ := by
  have letters : (trim text).toList = trimmed text.toList := String.toList_ofList
  have plain : "::".toList.isPrefixOf (trimmed text.toList) = false := by
    rw [Bool.eq_false_iff, ne_eq, List.isPrefixOf_iff_prefix, ← letters]
    intro colons
    rcases h.forall_mem ':' (colons.subset List.mem_cons_self) with part | mark
    · exact absurd part (by decide)
    · exact absurd mark (by decide)
  have shape := UseShape.classify_identifier h
  rw [letters] at shape
  exact parse_of_plain plain shape

theorem isIdentifier_of_parse {text : String} {tree : UseTree} (h : parse text = .ok tree)
    (name : tree.shape = .name) : IsIdentifier tree.text ∧ ¬IsAs tree.text := by
  obtain ⟨shape, filled, -⟩ := classify_of_parse h
  rw [name] at shape
  have identifier := UseShape.isIdentifier_of_classify filled.2 shape
  refine ⟨identifier, fun isAs => ?_⟩
  rw [UseShape.classify_identifier identifier, if_pos isAs] at shape
  cases shape

end UseTree

end PlatformGate
