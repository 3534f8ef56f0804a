import PlatformGate.Proofs.Options.Token

/-! Text whose brackets nest. Each skipper counts brackets of its own choice and none of them
compares kinds, but in a nested text the counts agree: arguments end at the bracket that closes
them, and a return type at the first comma or bracket behind it. -/

namespace PlatformGate.Options

open Text

def closer? : Char → Option Char
  | '<' => some '>'
  | '(' => some ')'
  | '[' => some ']'
  | _ => none

/-- Whether the brackets of the text nest, where those of `due` have still to be closed, innermost
first. The `>` of an arrow is no bracket, and every minus sign has to be that of an arrow. Commas
outside of all brackets may be forbidden. -/
def nests (commas : Bool) (due : List Char) : List Char → Bool
  | [] => due.isEmpty
  | '-' :: '>' :: rest => nests commas due rest
  | c :: rest =>
    match closer? c with
    | some closing => nests commas (closing :: due) rest
    | none =>
      if closes c then
        match due with
        | [] => false
        | closing :: outer => c == closing && nests commas outer rest
      else c != '-' && (commas || c != ',' || !due.isEmpty) && nests commas due rest

def Nested (text : List Char) : Prop := nests true [] text = true

def NestedType (text : List Char) : Prop := nests false [] text = true

instance (text : List Char) : Decidable (Nested text) :=
  inferInstanceAs (Decidable (nests true [] text = true))

instance (text : List Char) : Decidable (NestedType text) :=
  inferInstanceAs (Decidable (nests false [] text = true))

example : Nested "&[u8], fn(A) -> B, <T as Into<U>>::V".toList ∧ ¬Nested "<(>)".toList ∧
    ¬NestedType "A, B".toList ∧ NestedType "(A, B)".toList := by decide +kernel

theorem closer?_eq_some {c closing : Char} (h : closer? c = some closing) :
    c = '<' ∧ closing = '>' ∨ c = '(' ∧ closing = ')' ∨ c = '[' ∧ closing = ']' := by
  unfold closer? at h
  split at h <;> cases h <;> simp

theorem closes_iff {c : Char} : closes c = true ↔ c = ')' ∨ c = ']' ∨ c = '>' := by
  simp [closes, or_assoc]

theorem opens_of_closer? {c closing : Char} (h : closer? c = some closing) : opens c = true := by
  rcases closer?_eq_some h with ⟨rfl, -⟩ | ⟨rfl, -⟩ | ⟨rfl, -⟩ <;> rfl

theorem opens_of_unpaired {c : Char} (h : closer? c = none) : opens c = false := by
  refine Bool.eq_false_iff.mpr fun opening => ?_
  simp only [opens, Bool.or_eq_true, beq_iff_eq] at opening
  rcases opening with (rfl | rfl) | rfl <;> cases h

theorem closes_ne_minus {c : Char} (h : closes c = true) : some c ≠ some '-' := by
  rintro ⟨⟩
  cases h

theorem closer?_ne_minus {c closing : Char} (h : closer? c = some closing) :
    some c ≠ some '-' := by
  rintro ⟨⟩
  cases h

namespace BracketKind

variable {kind : BracketKind} {p : Option Char} {c : Char}

theorem change_of_closer? {closing : Char} (h : closer? c = some closing) :
    kind.change p c = [closing].count kind.closing := by
  rcases closer?_eq_some h with ⟨rfl, rfl⟩ | ⟨rfl, rfl⟩ | ⟨rfl, rfl⟩ <;> cases kind <;>
    simp [change, opening, BracketKind.closing]

theorem change_of_closes (h : closes c = true) (hp : p ≠ some '-') :
    kind.change p c = -[c].count kind.closing := by
  rcases closes_iff.mp h with rfl | rfl | rfl <;> cases kind <;>
    simp [change, opening, BracketKind.closing, hp]

theorem change_of_other (unpaired : closer? c = none) (other : ¬closes c = true) :
    kind.change p c = 0 := by
  have notOpening : c ≠ kind.opening := by
    rintro rfl
    cases kind <;> cases unpaired
  have notClosing : c ≠ kind.closing := by
    rintro rfl
    cases kind <;> exact other rfl
  rw [change, if_neg notOpening, if_neg fun closing => notClosing closing.1]

theorem skip_arrow (p : Option Char) (depth : Int) (rest : List Char) :
    kind.skip p depth ('-' :: '>' :: rest) = kind.skip (some '>') depth rest := by
  have shaft : kind.change p '-' = 0 := change_of_other rfl (by decide)
  have head : kind.change (some '-') '>' = 0 := by
    cases kind <;> simp [change, opening, closing, hasArrows]
  rw [skip, shaft, if_neg (by simp), skip, head, if_neg (by simp), Int.add_zero, Int.add_zero]

/-- In a nested text the depth is the number of brackets of the kind that are due, so the bracket
behind the text is the first to bring it to zero. -/
theorem skip_of_nests {commas : Bool} {due n : List Char} (h : nests commas due n = true)
    (hp : p ≠ some '-') (rest : List Char) :
    kind.skip p (due.count kind.closing + 1) (n ++ kind.closing :: rest) = some rest := by
  -- A bracket of the kind changes the depth and what is due alike, any other bracket neither.
  fun_induction nests commas due n generalizing p with
  | case1 due =>
    rw [List.isEmpty_iff.mp h]
    have closes : closes kind.closing = true := by cases kind <;> rfl
    have last : kind.change p kind.closing = -1 := by simp [change_of_closes closes hp]
    rw [List.nil_append, skip, last]
    rfl
  | case2 due tail ih =>
    rw [List.cons_append, List.cons_append, skip_arrow]
    exact ih h (by decide)
  | case3 due c tail _ closing pair ih =>
    have deeper := ih h (closer?_ne_minus pair)
    rw [← List.singleton_append, List.count_append] at deeper
    rw [List.cons_append, skip, change_of_closer? pair, if_neg (by omega), ← deeper]
    congr 1
    omega
  | case4 => cases h
  | case5 c tail _ _ closes closing outer ih =>
    obtain ⟨same, inner⟩ := Bool.and_eq_true_iff.mp h
    cases eq_of_beq same
    have higher := ih inner (closes_ne_minus closes)
    rw [← List.singleton_append, List.count_append, List.cons_append, skip,
      change_of_closes closes hp, if_neg (by omega), ← higher]
    congr 1
    omega
  | case6 due c tail _ unpaired other ih =>
    simp only [Bool.and_eq_true, bne_iff_ne] at h
    rw [List.cons_append, skip, change_of_other unpaired other, if_neg (by simp), Int.add_zero]
    exact ih h.2 (by simpa using h.1.1)

theorem encloses_of_nested {n : List Char} (h : Nested n) :
    kind.Encloses (kind.opening :: (n ++ [kind.closing])) := by
  have pair : closer? kind.opening = some kind.closing := by cases kind <;> rfl
  refine ⟨rfl, ?_⟩
  rw [skip, change_of_closer? pair, if_neg (by omega)]
  simpa using skip_of_nests h (closer?_ne_minus pair) []

end BracketKind

theorem nextDepth?_of_closer? {p : Option Char} {c closing : Char}
    (h : closer? c = some closing) (depth : Nat) : nextDepth? p depth c = some (depth + 1) := by
  simp [nextDepth?, opens_of_closer? h]

theorem nextDepth?_of_closes {p : Option Char} {c : Char} (unpaired : closer? c = none)
    (h : closes c = true) (hp : p ≠ some '-') (depth : Nat) :
    nextDepth? p (depth + 1) c = some depth := by
  simp [nextDepth?, opens_of_unpaired unpaired, h, hp]

theorem nextDepth?_of_other {p : Option Char} {c : Char} {depth : Nat}
    (unpaired : closer? c = none) (other : ¬closes c = true) (comma : c = ',' → depth ≠ 0) :
    nextDepth? p depth c = some depth := by
  simp only [nextDepth?, opens_of_unpaired unpaired, other]
  simpa using comma

theorem depthBehind?_of_nests {due n : List Char} {p : Option Char}
    (h : nests false due n = true) (hp : p ≠ some '-') :
    depthBehind? p due.length n = some 0 := by
  fun_induction nests false due n generalizing p with
  | case1 due =>
    rw [List.isEmpty_iff.mp h]
    rfl
  | case2 due tail ih =>
    have shaft : nextDepth? p due.length '-' = some due.length :=
      nextDepth?_of_other rfl (by decide) nofun
    have head : nextDepth? (some '-') due.length '>' = some due.length := by
      simp [nextDepth?, opens]
    rw [depthBehind?, shaft, Option.bind_some, depthBehind?, head, Option.bind_some]
    exact ih h (by decide)
  | case3 due c tail _ closing pair ih =>
    rw [depthBehind?, nextDepth?_of_closer? pair, Option.bind_some]
    exact ih h (closer?_ne_minus pair)
  | case4 => cases h
  | case5 c tail _ unpaired closes closing outer ih =>
    rw [depthBehind?, List.length_cons, nextDepth?_of_closes unpaired closes hp, Option.bind_some]
    exact ih (Bool.and_eq_true_iff.mp h).2 (closes_ne_minus closes)
  | case6 due c tail _ unpaired other ih =>
    simp only [Bool.and_eq_true, Bool.or_eq_true, bne_iff_ne, Bool.false_or, Bool.not_eq_true',
      List.isEmpty_eq_false_iff] at h
    obtain ⟨⟨notMinus, comma⟩, inner⟩ := h
    have inside : c = ',' → due.length ≠ 0 := fun isComma =>
      List.length_pos_iff.mpr (comma.resolve_left (by simpa using isComma)) |>.ne'
    rw [depthBehind?, nextDepth?_of_other unpaired other inside, Option.bind_some]
    exact ih inner (by simpa using notMinus)

theorem separates_of_nests {commas : Bool} {due n : List Char} (h : nests commas due n = true) :
    Separates n ')' := by
  fun_induction nests commas due n with
  | case1 => exact separates_of_not_mem (Or.inr rfl) (by simp)
  | case2 due tail ih =>
    have inner := (ih h).cons (d := '>') (by decide)
    exact (separates_append (s := ['-']) (by simp)).mpr inner
  | case3 due c tail _ closing pair ih =>
    exact (ih h).cons fun e => closer?_ne_minus pair (congrArg some e)
  | case4 => cases h
  | case5 c tail _ unpaired closes closing outer ih =>
    exact (ih (Bool.and_eq_true_iff.mp h).2).cons fun e => closes_ne_minus closes (congrArg some e)
  | case6 due c tail _ unpaired other ih =>
    simp only [Bool.and_eq_true, bne_iff_ne] at h
    exact (ih h.2).cons h.1.1

end PlatformGate.Options
