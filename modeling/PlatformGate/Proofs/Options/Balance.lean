import PlatformGate.Proofs.Options.Nesting

/-! How far counting goes in place of matching. Every skipper counts brackets without a look at what
they are: arguments count those of their own kind, a return type counts all of them. What they take
is nested as far as the count can tell, and whether it is nested in truth can be found out part by
part. -/

namespace PlatformGate.Options

open Text

/-- The brackets of the text in their order. The `>` of an arrow is none. -/
def brackets (previous : Option Char) : List Char → List Char
  | [] => []
  | c :: rest =>
    if opens c ∨ closes c ∧ ¬(c = '>' ∧ previous = some '-') then c :: brackets (some c) rest
    else brackets (some c) rest

/-- Whether brackets nest, where those of `due` have still to be closed, innermost first. Which
bracket closes which is up to `pairs`. -/
def nest (pairs : Char → Char → Bool) (due : List Char) : List Char → Bool
  | [] => due.isEmpty
  | c :: rest =>
    if opens c then nest pairs (c :: due) rest
    else
      match due with
      | [] => false
      | opening :: outer => pairs opening c && nest pairs outer rest

def paired (opening closing : Char) : Bool := closer? opening == some closing

def Balanced (text : List Char) : Prop := nest paired [] (brackets none text) = true

def NestsBlindly (text : List Char) : Prop := nest (fun _ _ => true) [] (brackets none text) = true

namespace BracketKind

def has (kind : BracketKind) (c : Char) : Bool := c == kind.opening || c == kind.closing

def Nests (kind : BracketKind) (text : List Char) : Prop :=
  nest paired [] ((brackets none text).filter kind.has) = true

end BracketKind

instance (text : List Char) : Decidable (Balanced text) :=
  inferInstanceAs (Decidable (nest paired [] (brackets none text) = true))

instance (text : List Char) : Decidable (NestsBlindly text) :=
  inferInstanceAs (Decidable (nest (fun _ _ => true) [] (brackets none text) = true))

instance (kind : BracketKind) (text : List Char) : Decidable (kind.Nests text) :=
  inferInstanceAs (Decidable (nest paired [] ((brackets none text).filter kind.has) = true))

example : Balanced "Fn<A>(&[u8]) -> B".toList ∧ ¬Balanced "<(>)".toList ∧
    BracketKind.angle.Nests "<(>".toList ∧ ¬BracketKind.parenthesis.Nests "<(>".toList ∧
    NestsBlindly "(A]".toList := by decide +kernel

section

variable {p q : Option Char} {s t : List Char}

theorem brackets_append (p : Option Char) (s t : List Char) :
    brackets p (s ++ t) = brackets p s ++ brackets (s.getLast?.or p) t := by
  induction s generalizing p with
  | nil => rfl
  | cons c s ih =>
    rw [List.cons_append, brackets, brackets, ih, getLast?_cons_or]
    split_ifs <;> rfl

theorem brackets_congr (same : SameBehind p q) (s : List Char) : brackets p s = brackets q s := by
  have behind : (p = some '-') = (q = some '-') := propext same
  cases s with
  | nil => rfl
  | cons c s => simp only [brackets, behind]

theorem brackets_append_of_last {s : List Char} (last : s.getLast? ≠ some '-') (t : List Char) :
    brackets none (s ++ t) = brackets none s ++ brackets none t := by
  have behind : SameBehind (s.getLast?.or none) none := by
    rw [Option.or_none]
    exact iff_of_false last (by decide)
  rw [brackets_append, brackets_congr behind]

theorem brackets_eq_nil (plain : ∀ c ∈ s, opens c = false ∧ closes c = false) :
    brackets p s = [] := by
  induction s generalizing p with
  | nil => rfl
  | cons c s ih =>
    obtain ⟨⟨notOpening, notClosing⟩, others⟩ := List.forall_mem_cons.mp plain
    rw [brackets, if_neg (by simp [notOpening, notClosing]), ih others]

end

section

variable {pairs : Char → Char → Bool} {due seq rest : List Char} {c opening : Char}

theorem nest_of_opens (h : opens c = true) :
    nest pairs due (c :: rest) = nest pairs (c :: due) rest := by
  rw [nest.eq_def]
  exact if_pos h

theorem nest_of_not_opens (h : opens c = false) :
    nest pairs (opening :: due) (c :: rest) = (pairs opening c && nest pairs due rest) := by
  rw [nest.eq_def]
  exact if_neg (by simp [h])

theorem nest_nil_of_not_opens (h : opens c = false) : nest pairs [] (c :: rest) = false := by
  rw [nest.eq_def]
  exact if_neg (by simp [h])

theorem nest_append (h : nest pairs due seq = true) (outer rest : List Char) :
    nest pairs (due ++ outer) (seq ++ rest) = nest pairs outer rest := by
  fun_induction nest pairs due seq with
  | case1 due =>
    rw [List.isEmpty_iff.mp h]
    rfl
  | case2 due c seq opening ih =>
    rw [List.cons_append, nest_of_opens opening]
    exact ih h
  | case3 => cases h
  | case4 c seq notOpening opening others ih =>
    obtain ⟨pair, inner⟩ := Bool.and_eq_true_iff.mp h
    rw [List.cons_append, List.cons_append, nest_of_not_opens (by simpa using notOpening), pair,
      Bool.true_and]
    exact ih inner

end

namespace BracketKind

variable {kind : BracketKind} {p : Option Char} {c : Char}

theorem opens_opening (kind : BracketKind) : opens kind.opening = true := by
  cases kind <;> rfl

theorem opens_closing (kind : BracketKind) : opens kind.closing = false := by
  cases kind <;> rfl

theorem paired_brackets (kind : BracketKind) : paired kind.opening kind.closing = true := by
  cases kind <;> rfl

theorem change_cases (kind : BracketKind) (p : Option Char) (c : Char) :
    (kind.change p c = 1 ∧ c = kind.opening) ∨
      (kind.change p c = -1 ∧ c = kind.closing ∧ ¬(kind.hasArrows = true ∧ p = some '-')) ∨
      (kind.change p c = 0 ∧ c ≠ kind.opening ∧
        (c = kind.closing → kind.hasArrows = true ∧ p = some '-')) := by
  unfold change
  by_cases isOpening : c = kind.opening
  · exact .inl ⟨if_pos isOpening, isOpening⟩
  rw [if_neg isOpening]
  by_cases isClosing : c = kind.closing ∧ ¬(kind.hasArrows = true ∧ p = some '-')
  · exact .inr (.inl ⟨if_pos isClosing, isClosing⟩)
  · exact .inr (.inr ⟨if_neg isClosing, isOpening, fun same =>
      by_contra fun counted => isClosing ⟨same, counted⟩⟩)

theorem isBracket_closing (counted : ¬(kind.hasArrows = true ∧ p = some '-')) :
    closes kind.closing = true ∧ ¬(kind.closing = '>' ∧ p = some '-') := by
  cases kind with
  | angle => exact ⟨rfl, fun arrow => counted ⟨rfl, arrow.2⟩⟩
  | parenthesis => exact ⟨rfl, fun arrow => by cases arrow.1⟩

theorem filter_brackets_cons (kind : BracketKind) (p : Option Char) (c : Char) (rest : List Char) :
    (brackets p (c :: rest)).filter kind.has =
      if kind.change p c = 0 then (brackets (some c) rest).filter kind.has
      else c :: (brackets (some c) rest).filter kind.has := by
  rw [brackets]
  rcases kind.change_cases p c with ⟨change, rfl⟩ | ⟨change, rfl, counted⟩ | ⟨change, other, hidden⟩
  · rw [change, if_pos (Or.inl kind.opens_opening), if_neg (by decide),
      List.filter_cons_of_pos (by simp [has])]
  · rw [change, if_pos (Or.inr (isBracket_closing counted)), if_neg (by decide),
      List.filter_cons_of_pos (by simp [has])]
  · rw [change, if_pos rfl]
    by_cases same : c = kind.closing
    · -- The `>` of an arrow is left out before the kinds are told apart.
      obtain ⟨arrows, minus⟩ := hidden same
      cases kind with
      | parenthesis => cases arrows
      | angle => rw [if_neg (by rw [same, minus]; decide)]
    · have others : ¬kind.has c = true := by simp [has, other, same]
      split_ifs
      · rw [List.filter_cons_of_neg others]
      · rfl

/-- What is skipped up to the bracket that closes the whole nests if other kinds are left out. -/
theorem nest_of_skip {depth : Nat} {s : List Char} (h : kind.skip p (depth + 1) s = some []) :
    ∃ inner, s = inner ++ [kind.closing] ∧
      nest paired (List.replicate depth kind.opening) ((brackets p inner).filter kind.has) = true ∧
      ¬(kind.hasArrows = true ∧ inner.getLast?.or p = some '-') := by
  induction s generalizing p depth with
  | nil => cases h
  | cons c s ih =>
    rw [skip] at h
    -- An opening bracket of the kind, a closing one that counts, or any other character.
    rcases kind.change_cases p c with ⟨change, rfl⟩ | ⟨change, rfl, counted⟩ | ⟨change, -, -⟩
    · rw [change, if_neg (by simp)] at h
      have deeper : kind.skip (some kind.opening) ((depth + 1 : Nat) + 1) s = some [] := by
        exact_mod_cast h
      obtain ⟨inner, rfl, nested, last⟩ := ih deeper
      refine ⟨kind.opening :: inner, rfl, ?_, by rwa [getLast?_cons_or]⟩
      rw [filter_brackets_cons, change, if_neg (by decide), nest_of_opens kind.opens_opening]
      exact nested
    · rw [change] at h
      cases depth with
      | zero =>
        cases h
        exact ⟨[], rfl, rfl, counted⟩
      | succ depth =>
        rw [if_neg (by omega)] at h
        have higher : kind.skip (some kind.closing) (depth + 1) s = some [] := by
          rwa [Int.natCast_add, Int.natCast_one, Int.add_neg_cancel_right] at h
        obtain ⟨inner, rfl, nested, last⟩ := ih higher
        refine ⟨kind.closing :: inner, rfl, ?_, by rwa [getLast?_cons_or]⟩
        rw [filter_brackets_cons, change, if_neg (by decide), List.replicate_succ,
          nest_of_not_opens kind.opens_closing, paired_brackets, nested]
        rfl
    · rw [change, if_neg (by simp), Int.add_zero] at h
      obtain ⟨inner, rfl, nested, last⟩ := ih h
      refine ⟨c :: inner, rfl, ?_, by rwa [getLast?_cons_or]⟩
      rw [filter_brackets_cons, change, if_pos rfl]
      exact nested

theorem Encloses.exists_nests {text : List Char} (h : kind.Encloses text) :
    ∃ inner, text = kind.opening :: (inner ++ [kind.closing]) ∧ kind.Nests inner ∧
      ¬(kind.hasArrows = true ∧ inner.getLast? = some '-') := by
  obtain ⟨starts, skipped⟩ := h
  cases text with
  | nil => cases starts
  | cons c text =>
    cases starts
    have change : kind.change none kind.opening = 1 := if_pos rfl
    have behind : SameBehind (some kind.opening) none :=
      iff_of_false (by cases kind <;> decide) (by decide)
    rw [skip, change, if_neg (by simp)] at skipped
    have inside : kind.skip (some kind.opening) ((0 : Nat) + 1) text = some [] := by
      simpa using skipped
    obtain ⟨inner, rfl, nested, last⟩ := nest_of_skip inside
    refine ⟨inner, rfl, by rwa [Nests, ← brackets_congr behind], fun minus => last ⟨minus.1, ?_⟩⟩
    rw [minus.2]
    rfl

end BracketKind

/-- A parenthesis or a square bracket is closed directly behind a minus sign, as if it were the head
of an arrow. -/
def HidesClosing (text : List Char) : Prop := ['-', ')'] <:+: text ∨ ['-', ']'] <:+: text

theorem HidesClosing.mono {s t : List Char} (h : HidesClosing s) (part : s <:+: t) :
    HidesClosing t :=
  h.imp (·.trans part) (·.trans part)

theorem arrow_of_minus {p : Option Char} {c : Char} {rest : List Char}
    (plain : ¬HidesClosing (p.toList ++ c :: rest)) (isClosing : closes c = true)
    (minus : p = some '-') : c = '>' := by
  subst minus
  rcases closes_iff.mp isClosing with rfl | rfl | rfl
  · exact absurd (.inl ⟨[], rest, rfl⟩) plain
  · exact absurd (.inr ⟨[], rest, rfl⟩) plain
  · rfl

theorem nest_of_depthBehind? {p : Option Char} {due r : List Char}
    (plain : ¬HidesClosing (p.toList ++ r)) (h : depthBehind? p due.length r = some 0) :
    nest (fun _ _ => true) due (brackets p r) = true := by
  induction r generalizing p due with
  | nil =>
    rw [depthBehind?, Option.some_inj] at h
    rw [List.length_eq_zero_iff.mp h]
    rfl
  | cons c r ih =>
    obtain ⟨depth, step, later⟩ := Option.bind_eq_some_iff.mp h
    have behind : ¬HidesClosing ((some c).toList ++ r) := fun hidden =>
      plain (hidden.mono (List.suffix_append p.toList (c :: r)).isInfix)
    rw [brackets]
    unfold nextDepth? at step
    split_ifs at step with opening closing comma
    · cases step
      rw [if_pos (Or.inl opening), nest_of_opens opening]
      exact ih behind later
    · have isBracket : closes c = true ∧ ¬(c = '>' ∧ p = some '-') :=
        ⟨closing.1, fun arrow => closing.2 arrow.2⟩
      cases due with
      | nil => cases step
      | cons opener outer =>
        cases step
        rw [if_pos (Or.inr isBracket), nest_of_not_opens (by simpa using opening), Bool.true_and]
        exact ih behind later
    · have other : ¬(opens c = true ∨ closes c = true ∧ ¬(c = '>' ∧ p = some '-')) := by
        rintro (isOpening | ⟨isClosing, notArrow⟩)
        · exact opening isOpening
        · exact closing ⟨isClosing, fun minus =>
            notArrow ⟨arrow_of_minus plain isClosing minus, minus⟩⟩
      cases step
      rw [if_neg other]
      exact ih behind later

theorem ResultText.nestsBlindly {r : List Char} (h : ResultText r) (plain : ¬HidesClosing r) :
    NestsBlindly r :=
  nest_of_depthBehind? (p := none) plain
    (show depthBehind? none ([] : List Char).length r = some 0 from h.balanced)

theorem closer?_of_paired {opening closing : Char} (h : paired opening closing = true) :
    closer? opening = some closing := eq_of_beq h

namespace BracketKind

variable {kind : BracketKind} {due outer seq rest : List Char}

theorem has_of_paired (kind : BracketKind) {opening closing : Char}
    (h : paired opening closing = true) : kind.has closing = kind.has opening := by
  rcases closer?_eq_some (closer?_of_paired h) with ⟨rfl, rfl⟩ | ⟨rfl, rfl⟩ | ⟨rfl, rfl⟩ <;>
    cases kind <;> rfl

theorem has_opening (kind : BracketKind) : kind.has kind.opening = true := by
  cases kind <;> rfl

theorem has_closing (kind : BracketKind) : kind.has kind.closing = true := by
  cases kind <;> rfl

/-- If the brackets of the kind match inside of a pair of that kind, then no other bracket reaches
out of the pair. The brackets of `due` have been opened inside of it. -/
theorem nest_of_enclosed
    (matched : nest paired (due.filter kind.has) (seq.filter kind.has) = true)
    (h : nest paired (due ++ kind.opening :: outer) (seq ++ kind.closing :: rest) = true) :
    nest paired due seq = true ∧ nest paired outer rest = true := by
  -- The induction is on the brackets inside of the pair. What is due outside of it stays as it is.
  induction seq generalizing due with
  | nil =>
    rw [List.nil_append] at h
    cases due with
    | nil =>
      rw [List.nil_append, nest_of_not_opens kind.opens_closing] at h
      exact ⟨rfl, (Bool.and_eq_true_iff.mp h).2⟩
    | cons opening due =>
      rw [List.cons_append, nest_of_not_opens kind.opens_closing] at h
      have same := has_of_paired kind (Bool.and_eq_true_iff.mp h).1
      rw [List.filter_cons_of_pos (same ▸ kind.has_closing)] at matched
      cases matched
  | cons c seq ih =>
    rw [List.cons_append] at h
    cases isOpening : opens c with
    | true =>
      rw [nest_of_opens isOpening] at h ⊢
      have inside : nest paired ((c :: due).filter kind.has) (seq.filter kind.has) = true := by
        by_cases counted : kind.has c = true
        · rw [List.filter_cons_of_pos counted, nest_of_opens isOpening] at matched
          rwa [List.filter_cons_of_pos counted]
        · rw [List.filter_cons_of_neg counted] at matched
          rwa [List.filter_cons_of_neg counted]
      exact ih inside h
    | false =>
      cases due with
      | nil =>
        rw [List.nil_append, nest_of_not_opens isOpening] at h
        have counted : kind.has c = true :=
          (has_of_paired kind (Bool.and_eq_true_iff.mp h).1).trans kind.has_opening
        rw [List.filter_nil, List.filter_cons_of_pos counted, nest_nil_of_not_opens isOpening]
          at matched
        cases matched
      | cons opening due =>
        rw [List.cons_append, nest_of_not_opens isOpening] at h
        obtain ⟨pair, later⟩ := Bool.and_eq_true_iff.mp h
        have same := has_of_paired kind pair
        have inside : nest paired (due.filter kind.has) (seq.filter kind.has) = true := by
          by_cases counted : kind.has c = true
          · rwa [List.filter_cons_of_pos counted, List.filter_cons_of_pos (same ▸ counted),
              nest_of_not_opens isOpening, pair, Bool.true_and] at matched
          · rwa [List.filter_cons_of_neg counted, List.filter_cons_of_neg (same ▸ counted)]
              at matched
        rw [nest_of_not_opens isOpening, pair, Bool.true_and]
        exact ih inside later

/-- A pair of brackets can be left out with what is between them, provided that this nests. -/
theorem nest_pair_append (matched : nest paired [] (seq.filter kind.has) = true) :
    nest paired outer (kind.opening :: (seq ++ kind.closing :: rest)) = true ↔
      nest paired [] seq = true ∧ nest paired outer rest = true := by
  rw [nest_of_opens kind.opens_opening]
  have inside : nest paired (([] : List Char).filter kind.has) (seq.filter kind.has) = true :=
    matched
  refine ⟨nest_of_enclosed inside, fun ⟨inner, behind⟩ => ?_⟩
  have closed := nest_append inner (kind.opening :: outer) (kind.closing :: rest)
  rw [List.nil_append] at closed
  rw [closed, nest_of_not_opens kind.opens_closing, paired_brackets, behind]
  rfl

end BracketKind

end PlatformGate.Options
