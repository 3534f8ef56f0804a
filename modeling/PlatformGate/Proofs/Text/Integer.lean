import Mathlib.Data.Nat.Digits.Defs
import PlatformGate.Text.Integer

/-! Integers that a text states. A text with too many digits is not read, so every number that is
read can be written again. One that can be written is read back as itself. -/

namespace PlatformGate.Text

theorem lt_of_mem_digitValues {text : List Char} {values : List Nat}
    (h : digitValues? text = some values) : ∀ d ∈ values, d < 10 := by
  fun_induction digitValues? text generalizing values with
  | case1 => cases h
  | case2 => cases h
  | case3 c d value =>
    cases h
    simpa using digitValue?_lt value
  | case4 c d more value ih =>
    obtain ⟨later, read, rfl⟩ := Option.map_eq_some_iff.mp h
    exact List.forall_mem_cons.mpr ⟨digitValue?_lt value, ih read⟩
  | case5 c d next more _ value ih =>
    obtain ⟨later, read, rfl⟩ := Option.map_eq_some_iff.mp h
    exact List.forall_mem_cons.mpr ⟨digitValue?_lt value, ih read⟩

theorem foldl_digits_lt {values : List Nat} (digits : ∀ d ∈ values, d < 10) :
    values.foldl (fun n d => 10 * n + d) 0 < 10 ^ values.length := by
  have below := Nat.ofDigits_lt_base_pow_length (b := 10) (by decide)
    fun d mem => digits d (List.mem_reverse.mp mem)
  rw [List.length_reverse, Nat.ofDigits_eq_foldr, List.foldr_reverse] at below
  simpa only [Nat.cast_id, Nat.add_comm] using below

theorem length_of_natural? {text : List Char} {n : Nat} (h : natural? text = some n) :
    (Nat.toDigits 10 n).length ≤ maxDigits := by
  unfold natural? at h
  split at h
  next => cases h
  next values read =>
    split at h
    next few =>
      cases h
      have below := foldl_digits_lt (lt_of_mem_digitValues read)
      refine Nat.toDigits_length 10 _ maxDigits (by decide) (below.trans_le ?_)
      exact Nat.pow_le_pow_right (by decide) few
    next => cases h

theorem isWritable_of_integer? {text : String} {n : Int} (h : integer? text = some n) :
    isWritable n = true := by
  have short : ∀ {digits : List Char} {m : Int},
      (do let a ← natural? digits; pure (a : Int)) = some m →
        (Nat.toDigits 10 m.natAbs).length ≤ maxDigits := by
    intro digits m h
    obtain ⟨k, read, same⟩ := Option.bind_eq_some_iff.mp h
    cases same
    exact length_of_natural? read
  unfold integer? at h
  split at h <;> obtain ⟨m, read, rfl⟩ := Option.map_eq_some_iff.mp h <;>
    simpa [isWritable] using short read

theorem toNat_of_isDigit {c : Char} (h : c.isDigit = true) : 48 ≤ c.toNat ∧ c.toNat ≤ 57 :=
  Char.isDigit_iff_toNat.mp h

theorem digitValue?_of_isDigit {c : Char} (h : c.isDigit = true) :
    digitValue? c = some (c.toNat - '0'.toNat) := by
  obtain ⟨low, high⟩ := toNat_of_isDigit h
  have zeros : digitZeros = 0x30 :: digitZeros.tail := rfl
  rw [digitValue?, zeros, List.find?_cons_of_pos]
  · rfl
  · simp only [Bool.and_eq_true, decide_eq_true_eq]
    omega

theorem isNumberBlank_of_isDigit {c : Char} (h : c.isDigit = true) : isNumberBlank c = false := by
  obtain ⟨low, high⟩ := toNat_of_isDigit h
  have solid : isBlank c = false := by
    simp only [isBlank, Bool.or_eq_false_iff, Bool.and_eq_false_iff, decide_eq_false_iff_not,
      beq_eq_false_iff_ne]
    omega
  rw [isNumberBlank, solid, Bool.false_and]

theorem digitValues?_of_isDigit {text : List Char} (nonempty : text ≠ [])
    (digits : ∀ c ∈ text, c.isDigit = true) :
    digitValues? text = some (text.map (·.toNat - '0'.toNat)) := by
  fun_induction digitValues? text with
  | case1 => exact absurd rfl nonempty
  | case2 c rest none =>
    rw [digitValue?_of_isDigit (digits c List.mem_cons_self)] at none
    cases none
  | case3 c d value =>
    rw [digitValue?_of_isDigit (digits c List.mem_cons_self)] at value
    cases value
    rfl
  | case4 c d more value ih =>
    exact absurd (digits '_' (by simp)) (by decide)
  | case5 c d next more _ value ih =>
    obtain ⟨here, later⟩ := List.forall_mem_cons.mp digits
    rw [digitValue?_of_isDigit here] at value
    cases value
    rw [ih (List.cons_ne_nil next more) later]
    rfl

theorem natural?_toDigits {n : Nat} (short : (Nat.toDigits 10 n).length ≤ maxDigits) :
    natural? (Nat.toDigits 10 n) = some n := by
  have digits : ∀ c ∈ Nat.toDigits 10 n, c.isDigit = true := fun c mem =>
    Nat.isDigit_of_mem_toDigits (by decide) (by decide) mem
  have value : ((Nat.toDigits 10 n).map (·.toNat - '0'.toNat)).foldl (fun m d => 10 * m + d) 0 = n := by
    rw [List.foldl_map]
    exact Nat.ofDigitChars_toDigits (by decide) (by decide)
  rw [natural?, digitValues?_of_isDigit Nat.toDigits_ne_nil digits]
  simp only [List.length_map, if_pos short, value]

theorem dropEndWhile_of_forall {test : Char → Bool} {text : List Char}
    (h : ∀ c ∈ text, test c = false) : dropEndWhile test text = text := by
  induction text with
  | nil => rfl
  | cons c text ih =>
    obtain ⟨here, later⟩ := List.forall_mem_cons.mp h
    rw [dropEndWhile, ih later]
    cases text with
    | nil => simp only [here, Bool.false_eq_true, if_false]
    | cons d text => rfl

theorem dropWhile_of_forall {test : Char → Bool} {text : List Char}
    (h : ∀ c ∈ text, test c = false) : text.dropWhile test = text := by
  cases text with
  | nil => rfl
  | cons c text => rw [List.dropWhile_cons_of_neg (by simp [h c List.mem_cons_self])]

theorem dropBlank_of_solid {text : List Char} (solid : ∀ c ∈ text, isNumberBlank c = false) :
    dropEndWhile isNumberBlank (text.dropWhile isNumberBlank) = text := by
  rw [dropWhile_of_forall solid, dropEndWhile_of_forall solid]

theorem integer?_toString {n : Int} (short : isWritable n = true) :
    integer? (toString n) = some n := by
  rw [isWritable, decide_eq_true_eq] at short
  have digits (m : Nat) : ∀ c ∈ Nat.toDigits 10 m, c.isDigit = true := fun c mem =>
    Nat.isDigit_of_mem_toDigits (by decide) (by decide) mem
  have solid (m : Nat) : ∀ c ∈ Nat.toDigits 10 m, isNumberBlank c = false := fun c mem =>
    isNumberBlank_of_isDigit (digits m c mem)
  -- No digit is a sign, so the first character tells the two cases apart.
  cases n with
  | ofNat m =>
    have text : (toString (Int.ofNat m)).toList = Nat.toDigits 10 m := Nat.toList_repr
    rw [integer?, text, dropBlank_of_solid (solid m)]
    split
    next minus =>
      exact absurd (digits m '-' (minus ▸ List.mem_cons_self)) (by decide)
    next plus =>
      exact absurd (digits m '+' (plus ▸ List.mem_cons_self)) (by decide)
    next =>
      rw [natural?_toDigits (n := m) short]
      rfl
  | negSucc m =>
    have text : (toString (Int.negSucc m)).toList = '-' :: Nat.toDigits 10 (m + 1) := by
      rw [← Nat.toList_repr]
      exact String.toList_append
    have signed : ∀ c ∈ '-' :: Nat.toDigits 10 (m + 1), isNumberBlank c = false :=
      List.forall_mem_cons.mpr ⟨by decide, solid (m + 1)⟩
    rw [integer?, text, dropBlank_of_solid signed]
    simp only
    rw [natural?_toDigits (n := m + 1) short]
    rfl

end PlatformGate.Text
