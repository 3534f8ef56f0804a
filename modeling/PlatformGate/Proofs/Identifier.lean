import PlatformGate.Identifier
import PlatformGate.Proofs.Text.Split

/-! Names at the beginning of a text, and texts that are identifiers. The longest leading name is
the whole of a name that no further name character follows. What is accepted as an identifier is
spelled like one, but a line feed may follow it, and then it may be the lone underscore. -/

namespace PlatformGate

open Text

def EndsName (text : List Char) : Prop := ∀ c, text.head? = some c → isNamePart c = false

theorem isNamePart_of_isNameStart {c : Char} (h : isNameStart c = true) :
    isNamePart c = true := by
  rcases Bool.or_eq_true_iff.mp h with alpha | underscore
  · exact Bool.or_eq_true_iff.mpr (Or.inl (Bool.or_eq_true_iff.mpr (Or.inl alpha)))
  · exact Bool.or_eq_true_iff.mpr (Or.inr underscore)

theorem isAlpha_iff {c : Char} : c.isAlpha = true ↔ 'A' ≤ c ∧ c ≤ 'Z' ∨ 'a' ≤ c ∧ c ≤ 'z' :=
  Bool.or_eq_true_iff.trans <| or_congr decide_eq_true_iff <|
    Bool.and_eq_true_iff.trans (and_congr decide_eq_true_iff decide_eq_true_iff)

theorem isDigit_iff {c : Char} : c.isDigit = true ↔ '0' ≤ c ∧ c ≤ '9' :=
  Bool.and_eq_true_iff.trans (and_congr decide_eq_true_iff decide_eq_true_iff)

theorem code_of_isAlpha {c : Char} (h : c.isAlpha = true) :
    65 ≤ c.toNat ∧ c.toNat ≤ 90 ∨ 97 ≤ c.toNat ∧ c.toNat ≤ 122 := isAlpha_iff.mp h

theorem code_of_isDigit {c : Char} (h : c.isDigit = true) : 48 ≤ c.toNat ∧ c.toNat ≤ 57 :=
  isDigit_iff.mp h

theorem code_of_isNamePart {c : Char} (h : isNamePart c = true) :
    48 ≤ c.toNat ∧ c.toNat ≤ 122 := by
  rcases Bool.or_eq_true_iff.mp h with alphanum | underscore
  · rcases Bool.or_eq_true_iff.mp alphanum with alpha | digit
    · have code := code_of_isAlpha alpha
      omega
    · have code := code_of_isDigit digit
      omega
  · rw [eq_of_beq underscore]
    decide

theorem isBlank_of_isNamePart {c : Char} (h : isNamePart c = true) : isBlank c = false := by
  have code := code_of_isNamePart h
  simp only [isBlank, Bool.or_eq_false_iff, Bool.and_eq_false_iff, decide_eq_false_iff_not,
    beq_eq_false_iff_ne]
  omega

theorem isNamePart_of_mem {name : List Char} (h : isName name = true) :
    ∀ c ∈ name, isNamePart c = true := by
  cases name with
  | nil => cases h
  | cons d rest =>
    simp only [isName, Bool.and_eq_true, List.all_eq_true] at h
    rintro c (_ | ⟨_, hc⟩)
    · exact isNamePart_of_isNameStart h.1
    · exact h.2 c hc

theorem solid_of_mem_name {name : List Char} (h : isName name = true) :
    ∀ c ∈ name, isBlank c = false := fun c hc => isBlank_of_isNamePart (isNamePart_of_mem h c hc)

theorem startsSolid_name {name : List Char} (h : isName name = true) : StartsSolid name := by
  cases name with
  | nil => cases h
  | cons c rest => exact startsSolid_cons (solid_of_mem_name h c List.mem_cons_self) rest

theorem endsSolid_name {name : List Char} (h : isName name = true) : EndsSolid name := by
  have nonempty : name ≠ [] := by
    rintro rfl
    cases h
  exact ⟨name.getLast nonempty, List.getLast?_eq_some_getLast nonempty,
    solid_of_mem_name h _ (List.getLast_mem nonempty)⟩

theorem isName_leadingName {text : List Char} (h : leadingName text ≠ []) :
    isName (leadingName text) = true := by
  cases text with
  | nil => exact absurd rfl h
  | cons c rest =>
    by_cases start : isNameStart c = true
    · simp [leadingName, start, isName]
    · simp [leadingName, start] at h

theorem leadingName_append_drop (text : List Char) :
    leadingName text ++ text.drop (leadingName text).length = text :=
  List.prefix_iff_eq_append.mp (leadingName_isPrefix text)

theorem endsName_drop_leadingName {text : List Char} (h : leadingName text ≠ []) :
    EndsName (text.drop (leadingName text).length) := by
  cases text with
  | nil => exact absurd rfl h
  | cons c rest =>
    by_cases start : isNameStart c = true
    · have behind : rest.drop (rest.takeWhile isNamePart).length = rest.dropWhile isNamePart := by
        have split : (rest.takeWhile isNamePart ++ rest.dropWhile isNamePart).drop
            (rest.takeWhile isNamePart).length = rest.dropWhile isNamePart := List.drop_left
        rwa [List.takeWhile_append_dropWhile] at split
      intro d hd
      have stop := List.head?_dropWhile_not isNamePart rest
      simp only [leadingName, start, if_true, List.length_cons, List.drop_succ_cons, behind] at hd
      rwa [hd] at stop
    · simp [leadingName, start] at h

theorem leadingName_append {name rest : List Char} (h : isName name = true)
    (ends : EndsName rest) : leadingName (name ++ rest) = name := by
  cases name with
  | nil => cases h
  | cons c tail =>
    simp only [isName, Bool.and_eq_true, List.all_eq_true] at h
    have stop : rest.takeWhile isNamePart = [] := by
      cases rest with
      | nil => rfl
      | cons d rest => simp [ends d rfl]
    simp [leadingName, h.1, List.takeWhile_append_of_pos h.2, stop]

theorem endsName_append_blank {w rest : List Char} (hw : AllBlank w) (ends : EndsName rest) :
    EndsName (w ++ rest) := by
  cases w with
  | nil => exact ends
  | cons d w =>
    intro c hc
    cases hc
    have blank := hw d List.mem_cons_self
    cases part : isNamePart d with
    | false => rfl
    | true => rw [isBlank_of_isNamePart part] at blank; cases blank

/-- A text that is an identifier to its last character: a name, maybe behind `r#`. -/
def IsIdentifier (text : String) : Prop := text ≠ "_" ∧ isName (dropRawMark text.toList) = true

instance (text : String) : Decidable (IsIdentifier text) :=
  inferInstanceAs (Decidable (text ≠ "_" ∧ isName (dropRawMark text.toList) = true))

theorem dropRawMark_cases (text : List Char) :
    text = 'r' :: '#' :: dropRawMark text ∨ text = dropRawMark text := by
  unfold dropRawMark
  split
  next => exact .inl rfl
  next => exact .inr rfl

def IsInitial (c : Char) : Prop := 'A' ≤ c ∧ c ≤ 'Z' ∨ 'a' ≤ c ∧ c ≤ 'z' ∨ c = '_'

def IsInner (c : Char) : Prop := IsInitial c ∨ '0' ≤ c ∧ c ≤ '9'

/-- The whole text is spelled like an identifier. So is the lone underscore. -/
inductive Spelling : List Char → Prop
  | plain {c : Char} {rest : List Char} (initial : IsInitial c) (inner : ∀ d ∈ rest, IsInner d) :
      Spelling (c :: rest)
  | raw {c : Char} {rest : List Char} (initial : IsInitial c) (inner : ∀ d ∈ rest, IsInner d) :
      Spelling ('r' :: '#' :: c :: rest)

theorem isNameStart_iff {c : Char} : isNameStart c = true ↔ IsInitial c := by
  rw [isNameStart, Bool.or_eq_true_iff, isAlpha_iff, beq_iff_eq, or_assoc, IsInitial]

theorem isNamePart_iff {c : Char} : isNamePart c = true ↔ IsInner c := by
  rw [IsInner, ← isNameStart_iff, ← isDigit_iff, isNamePart, isNameStart, Bool.or_eq_true_iff,
    Bool.or_eq_true_iff, or_right_comm]
  exact or_congr_left Bool.or_eq_true_iff

theorem isName_cons {c : Char} {rest : List Char} :
    isName (c :: rest) = true ↔ IsInitial c ∧ ∀ d ∈ rest, IsInner d := by
  simp only [isName, Bool.and_eq_true, List.all_eq_true, isNameStart_iff, isNamePart_iff]

theorem Spelling.forall_mem {text : List Char} (spelling : Spelling text) :
    ∀ c ∈ text, isNamePart c = true ∨ c = '#' := by
  have letters {c : Char} {rest : List Char} (initial : IsInitial c)
      (inner : ∀ d ∈ rest, IsInner d) : ∀ d ∈ c :: rest, isNamePart d = true ∨ d = '#' :=
    fun d mem => .inl (isNamePart_of_mem (isName_cons.mpr ⟨initial, inner⟩) d mem)
  cases spelling with
  | plain initial inner => exact letters initial inner
  | raw initial inner =>
    exact List.forall_mem_cons.mpr ⟨.inl (by decide),
      List.forall_mem_cons.mpr ⟨.inr rfl, letters initial inner⟩⟩

theorem Spelling.solid {text : List Char} (spelling : Spelling text) :
    ∀ c ∈ text, isBlank c = false := by
  intro c mem
  rcases spelling.forall_mem c mem with part | rfl
  · exact isBlank_of_isNamePart part
  · decide

theorem spelling_iff {text : List Char} : Spelling text ↔ isName (dropRawMark text) = true := by
  constructor
  · rintro (@⟨c, rest, initial, inner⟩ | ⟨initial, inner⟩)
    · have unmarked : dropRawMark (c :: rest) = c :: rest := by
        rcases dropRawMark_cases (c :: rest) with raw | whole
        · have mark : IsInner '#' := inner '#'
            (List.mem_of_mem_head? (congrArg List.head? (List.cons.inj raw).2))
          exact absurd (isNamePart_iff.mpr mark) (by decide)
        · exact whole.symm
      rw [unmarked]
      exact isName_cons.mpr ⟨initial, inner⟩
    · exact isName_cons.mpr ⟨initial, inner⟩
  · intro name
    obtain ⟨c, rest, split⟩ := List.exists_cons_of_ne_nil (startsSolid_name name).ne_nil
    rw [split, isName_cons] at name
    rcases dropRawMark_cases text with raw | whole
    · rw [raw, split]
      exact .raw name.1 name.2
    · rw [whole, split]
      exact .plain name.1 name.2

theorem isIdentifier_iff_spelling {text : String} :
    IsIdentifier text ↔ text ≠ "_" ∧ Spelling text.toList := and_congr_right' spelling_iff.symm

theorem IsIdentifier.forall_mem {text : String} (h : IsIdentifier text) :
    ∀ c ∈ text.toList, isNamePart c = true ∨ c = '#' := (spelling_iff.mpr h.2).forall_mem

theorem dropFinalLineFeed_of_getLast? {text : List Char} (h : text.getLast? ≠ some '\n') :
    dropFinalLineFeed text = text := by
  fun_induction dropFinalLineFeed text with
  | case1 => rfl
  | case2 => exact absurd rfl h
  | case3 c rest other ih =>
    cases rest with
    | nil => rfl
    | cons d rest => rw [ih (by rwa [List.getLast?_cons_cons] at h)]

theorem dropFinalLineFeed_concat (text : List Char) :
    dropFinalLineFeed (text ++ ['\n']) = text := by
  induction text with
  | nil => rfl
  | cons c rest ih =>
    rw [List.cons_append, dropFinalLineFeed, ih]
    exact fun _ => List.append_ne_nil_of_right_ne_nil rest (List.cons_ne_nil _ _)

/-- Spelled like an identifier except for the last character, which is a line feed. -/
def SpelledWithLineFeed (text : String) : Prop :=
  ∃ word : String, Spelling word.toList ∧ text = word ++ "\n"

theorem SpelledWithLineFeed.lineFeed_mem {text : String} (h : SpelledWithLineFeed text) :
    '\n' ∈ text.toList := by
  obtain ⟨word, -, rfl⟩ := h
  simp

/-- What is accepted besides the identifiers. -/
theorem isIdentifier_iff {text : String} :
    isIdentifier text = true ↔ IsIdentifier text ∨ SpelledWithLineFeed text := by
  rw [isIdentifier, Bool.and_eq_true, bne_iff_ne, ← spelling_iff]
  by_cases last : text.toList.getLast? = some '\n'
  · obtain ⟨front, split⟩ := List.getLast?_eq_some_iff.mp last
    rw [split, dropFinalLineFeed_concat]
    constructor
    · rintro ⟨-, spelling⟩
      refine .inr ⟨String.ofList front, by rwa [String.toList_ofList], ?_⟩
      exact String.toList_injective (by simp [split])
    · rintro (identifier | ⟨word, spelling, rfl⟩)
      · rcases identifier.forall_mem '\n' (List.mem_of_getLast? last) with part | mark
        · exact absurd part (by decide)
        · exact absurd mark (by decide)
      · rw [String.toList_append] at split
        refine ⟨fun lone => ?_, List.append_inj_left' split rfl ▸ spelling⟩
        rw [lone] at last
        exact absurd last (by decide)
  · rw [dropFinalLineFeed_of_getLast? last, ← isIdentifier_iff_spelling]
    refine (or_iff_left ?_).symm
    rintro ⟨word, -, rfl⟩
    exact last (by simp)

theorem IsIdentifier.isIdentifier {text : String} (h : IsIdentifier text) :
    isIdentifier text = true := isIdentifier_iff.mpr (.inl h)

theorem isIdentifier_of_trim {text : String} (h : trim text = text) :
    isIdentifier text = true ↔ IsIdentifier text := by
  rw [isIdentifier_iff]
  refine or_iff_left ?_
  rintro ⟨word, -, rfl⟩
  have filled : Filled (word ++ "\n") := ⟨by simp, h⟩
  obtain ⟨c, last, solid⟩ := filled.solid.2
  simp only [String.toList_append, List.getLast?_append] at last
  cases last
  cases solid

end PlatformGate
