import PlatformGate.Proofs.Identifier
import PlatformGate.Text.Split
import PlatformGate.Text.Word

/-! Whole words in a text. The characters of names are word characters, so a name is one word, and
whatever is looked for in it as a whole word is found only if it is all of the name. -/

namespace PlatformGate.Text

theorem isWordChar_of_isNamePart {c : Char} (h : isNamePart c = true) : isWordChar c = true := by
  have digits : (0x30, 0x39) ∈ letterOrNumberRanges := List.mem_cons_self
  have capitals : (0x41, 0x5A) ∈ letterOrNumberRanges := .tail _ (.head _)
  have letters : (0x61, 0x7A) ∈ letterOrNumberRanges := .tail _ (.tail _ (.head _))
  rcases Bool.or_eq_true_iff.mp h with alphanum | underscore
  · refine Bool.or_eq_true_iff.mpr (.inr (RangeTable.covers_iff.mpr ?_))
    rcases Bool.or_eq_true_iff.mp alphanum with alpha | digit
    · rcases code_of_isAlpha alpha with upper | lower
      · exact ⟨_, capitals, upper⟩
      · exact ⟨_, letters, lower⟩
    · exact ⟨_, digits, code_of_isDigit digit⟩
  · exact Bool.or_eq_true_iff.mpr (.inl underscore)

set_option maxRecDepth 4000 in
theorem le_code_of_isWordChar {c : Char} (h : isWordChar c = true) : 48 ≤ c.toNat := by
  have table : ∀ range ∈ letterOrNumberRanges, 48 ≤ range.1 := by decide +kernel
  rcases Bool.or_eq_true_iff.mp h with underscore | covered
  · rw [eq_of_beq underscore]
    decide
  · obtain ⟨range, mem, low, -⟩ := RangeTable.covers_iff.mp covered
    exact (table range mem).trans low

set_option maxRecDepth 4000 in
theorem isWordChar_of_isBlank {c : Char} (h : isBlank c = true) : isWordChar c = false := by
  have table : ∀ range ∈ letterOrNumberRanges, 33 ≤ range.1 ∧
      (range.2 < 0x85 ∨ 0x85 < range.1) ∧ (range.2 < 0xA0 ∨ 0xA0 < range.1) ∧
      (range.2 < 0x1680 ∨ 0x1680 < range.1) ∧ (range.2 < 0x2000 ∨ 0x202F < range.1) ∧
      (range.2 < 0x205F ∨ 0x205F < range.1) ∧ (range.2 < 0x3000 ∨ 0x3000 < range.1) := by
    decide +kernel
  refine Bool.eq_false_iff.mpr fun word => ?_
  simp only [isBlank, Bool.or_eq_true, Bool.and_eq_true, decide_eq_true_eq, beq_iff_eq] at h
  rcases Bool.or_eq_true_iff.mp word with underscore | covered
  · rw [eq_of_beq underscore] at h
    revert h
    decide
  · obtain ⟨range, mem, low, high⟩ := RangeTable.covers_iff.mp covered
    have apart := table range mem
    omega

theorem hasWholeWord_inside {word text : List Char} {previous : Char}
    (inside : isWordChar previous = true) (letters : ∀ c ∈ text, isWordChar c = true) :
    hasWholeWord word (some previous) text = false := by
  induction text generalizing previous with
  | nil => rfl
  | cons c text ih =>
    obtain ⟨here, later⟩ := List.forall_mem_cons.mp letters
    simp [hasWholeWord, inside, ih here later]

theorem beginsOutsideWord_of_letters {text : List Char}
    (letters : ∀ c ∈ text, isWordChar c = true) : beginsOutsideWord text = true ↔ text = [] := by
  cases text with
  | nil => simp [beginsOutsideWord]
  | cons c text => simp [beginsOutsideWord, letters c List.mem_cons_self]

theorem hasWholeWord_of_letters {word text : List Char} {previous : Option Char}
    (nonempty : word ≠ []) (outside : previous.any isWordChar = false)
    (letters : ∀ c ∈ text, isWordChar c = true) :
    hasWholeWord word previous text = true ↔ text = word := by
  cases text with
  | nil => exact iff_of_false Bool.false_ne_true fun empty => nonempty empty.symm
  | cons c text =>
    obtain ⟨here, later⟩ := List.forall_mem_cons.mp letters
    have behind : ∀ d ∈ (c :: text).drop word.length, isWordChar d = true := fun d mem =>
      letters d (List.mem_of_mem_drop mem)
    have alone : hasWholeWord word previous (c :: text) = true ↔
        word <+: c :: text ∧ (c :: text).drop word.length = [] := by
      rw [hasWholeWord, hasWholeWord_inside here later, outside, Bool.or_false, Bool.not_false,
        Bool.true_and, Bool.and_eq_true, List.isPrefixOf_iff_prefix,
        beginsOutsideWord_of_letters behind]
    rw [alone]
    constructor
    · rintro ⟨⟨rest, split⟩, nothing⟩
      rw [← split, List.drop_left] at nothing
      rw [← split, nothing, List.append_nil]
    · intro whole
      rw [whole]
      exact ⟨List.prefix_rfl, List.drop_length⟩

theorem hasPart_of_not_mem {part text : List Char} {c : Char} (mem : c ∈ part) (h : c ∉ text) :
    hasPart part text = false := by
  induction text with
  | nil =>
    cases part with
    | nil => cases mem
    | cons d part => rfl
  | cons d text ih =>
    have absent : ¬part <+: d :: text := fun inside => h (inside.subset mem)
    rw [hasPart, ih (List.not_mem_of_not_mem_cons h), Bool.or_false, ← Bool.not_eq_true,
      List.isPrefixOf_iff_prefix]
    exact absent

end PlatformGate.Text
