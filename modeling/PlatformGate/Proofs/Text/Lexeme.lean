import Mathlib.Data.List.Basic
import PlatformGate.Identifier
import PlatformGate.Text.Blank

/-! Words and lifetimes in generated code. A text falls into lexemes: words, which are names,
keywords and numbers, lifetimes, characters between quotation marks, and all other characters one by
one. Texts side by side have the lexemes of each, as long as a mark keeps them apart. What a string
literal or a comment holds is read like everything else. -/

namespace PlatformGate.Text

inductive Lexeme where
  | word (letters : List Char)
  | lifetime (letters : List Char)
  | literal (letters : List Char)
  | mark (c : Char)
  deriving DecidableEq, Repr

namespace Lexeme

def text : Lexeme → List Char
  | word letters => letters
  | lifetime letters => '\'' :: letters
  | literal letters => '\'' :: (letters ++ ['\''])
  | mark c => [c]

def word? : Lexeme → Option String
  | word letters => some (String.ofList letters)
  | _ => none

def lifetime? : Lexeme → Option String
  | lifetime letters => some (String.ofList ('\'' :: letters))
  | _ => none

end Lexeme

def isWideSpace (c : Char) : Bool :=
  c == '\u0085' || c == '\u200e' || c == '\u200f' || c == '\u2028' || c == '\u2029'

def isWordPart (c : Char) : Bool := isNamePart c || 128 ≤ c.toNat && !isWideSpace c

def isMark (c : Char) : Bool := !isWordPart c && c != '\''

def pushLetter (c : Char) : List Lexeme → List Lexeme
  | .word letters :: behind => .word (c :: letters) :: behind
  | behind => .word [c] :: behind

/-- A quotation mark in front of a word makes a lifetime of it, unless another one ends the word. -/
def pushQuote : List Lexeme → List Lexeme
  | .word letters :: .mark '\'' :: behind => .literal letters :: behind
  | .word letters :: behind => .lifetime letters :: behind
  | behind => .mark '\'' :: behind

def pushLexeme (c : Char) (behind : List Lexeme) : List Lexeme :=
  if isWordPart c then pushLetter c behind
  else if c = '\'' then pushQuote behind
  else .mark c :: behind

def lexemes (text : List Char) : List Lexeme := text.foldr pushLexeme []

theorem flatMap_text_pushLexeme (c : Char) (behind : List Lexeme) :
    (pushLexeme c behind).flatMap Lexeme.text = c :: behind.flatMap Lexeme.text := by
  unfold pushLexeme
  split
  · unfold pushLetter
    split <;> rfl
  · split
    next quote =>
      unfold pushQuote
      split <;> simp [Lexeme.text, quote]
    next => rfl

theorem flatMap_text_lexemes (text : List Char) :
    (lexemes text).flatMap Lexeme.text = text := by
  induction text with
  | nil => rfl
  | cons c text ih => rw [lexemes, List.foldr_cons, flatMap_text_pushLexeme, ← lexemes, ih]

theorem isMark_iff {c : Char} : isMark c = true ↔ isWordPart c = false ∧ c ≠ '\'' := by
  simp [isMark]

theorem lexemes_cons_mark {c : Char} (mark : isMark c = true) (rest : List Char) :
    lexemes (c :: rest) = .mark c :: lexemes rest := by
  obtain ⟨part, quote⟩ := isMark_iff.mp mark
  rw [lexemes, List.foldr_cons, ← lexemes, pushLexeme, part, if_neg Bool.false_ne_true,
    if_neg quote]

theorem pushLetter_append (c d : Char) (front behind : List Lexeme) :
    pushLetter c (front ++ .mark d :: behind) = pushLetter c front ++ .mark d :: behind := by
  rcases front with _ | ⟨_ | _ | _ | _, front⟩ <;> rfl

theorem pushQuote_append {d : Char} (other : d ≠ '\'') (front behind : List Lexeme) :
    pushQuote (front ++ .mark d :: behind) = pushQuote front ++ .mark d :: behind := by
  fun_cases pushQuote front with
  | case1 letters front => rfl
  | case2 letters front unclosed =>
    refine pushQuote.eq_2 letters _ fun later same => ?_
    rcases front with _ | ⟨_, front⟩
    · cases same
      exact other rfl
    · cases same
      exact unclosed _ rfl
  | case3 _ _ noWord =>
    rcases front with _ | ⟨letters | _ | _ | _, front⟩
    · rfl
    · exact (noWord letters front rfl).elim
    · rfl
    · rfl
    · rfl

theorem pushLexeme_append {d : Char} (mark : isMark d = true) (c : Char)
    (front behind : List Lexeme) :
    pushLexeme c (front ++ .mark d :: behind) = pushLexeme c front ++ .mark d :: behind := by
  unfold pushLexeme
  split
  · exact pushLetter_append c d front behind
  · split
    · exact pushQuote_append (isMark_iff.mp mark).2 front behind
    · rfl

/-- What is in front of a mark does not reach behind it. -/
theorem lexemes_append_mark {c : Char} (mark : isMark c = true) (front rest : List Char) :
    lexemes (front ++ c :: rest) = lexemes front ++ .mark c :: lexemes rest := by
  induction front with
  | nil => exact lexemes_cons_mark mark rest
  | cons d front ih =>
    rw [List.cons_append, lexemes, List.foldr_cons, ← lexemes, ih, pushLexeme_append mark]
    rfl

def StartsApart (text : List Char) : Prop := ∃ c, text.head? = some c ∧ isMark c = true

def EndsApart (text : List Char) : Prop := ∃ c, text.getLast? = some c ∧ isMark c = true

theorem lexemes_append {left right : List Char}
    (apart : EndsApart left ∨ StartsApart right) :
    lexemes (left ++ right) = lexemes left ++ lexemes right := by
  rcases apart with ends | starts
  · obtain ⟨c, last, mark⟩ := ends
    obtain ⟨front, rfl⟩ := List.getLast?_eq_some_iff.mp last
    rw [List.append_assoc, List.singleton_append, lexemes_append_mark mark,
      lexemes_append_mark mark, List.append_assoc]
    rfl
  · obtain ⟨c, first, mark⟩ := starts
    obtain ⟨rest, rfl⟩ := List.head?_eq_some_iff.mp first
    rw [lexemes_append_mark mark, lexemes_cons_mark mark]

section Collected

variable {α : Type} (pick : Lexeme → Option α)

def collect (text : String) : List α := (lexemes text.toList).filterMap pick

theorem collect_append {left right : String}
    (apart : EndsApart left.toList ∨ StartsApart right.toList) :
    collect pick (left ++ right) = collect pick left ++ collect pick right := by
  rw [collect, String.toList_append, lexemes_append apart, List.filterMap_append]
  rfl

theorem collect_between {separator : String} (starts : StartsApart separator.toList)
    (ends : EndsApart separator.toList) (nothing : collect pick separator = [])
    (left right : String) :
    collect pick (left ++ separator ++ right) = collect pick left ++ collect pick right := by
  obtain ⟨c, last, mark⟩ := ends
  have behind : EndsApart (left ++ separator).toList :=
    ⟨c, by rw [String.toList_append, List.getLast?_append, last, Option.some_or], mark⟩
  rw [collect_append pick (.inl behind), collect_append pick (.inr starts), nothing,
    List.append_nil]

theorem collect_intercalate {separator : String} (starts : StartsApart separator.toList)
    (ends : EndsApart separator.toList) (nothing : collect pick separator = [])
    (texts : List String) :
    collect pick (separator.intercalate texts) = texts.flatMap (collect pick) := by
  induction texts with
  | nil => rfl
  | cons text others ih =>
    cases others with
    | nil => simp
    | cons next others =>
      rw [String.intercalate_cons_cons, collect_between pick starts ends nothing, ih]
      rfl

end Collected

def words : String → List String := collect Lexeme.word?

def lifetimes : String → List String := collect Lexeme.lifetime?

example : words "From<&'a [T; 3]> + ?Sized" = ["From", "T", "3", "Sized"] := by decide

def colonsBehind (colons : Nat) : Lexeme → Nat
  | .mark c => if c = ':' then colons + 1 else if isBlank c then colons else 0
  | _ => 0

def inPaths (colons : Nat) : List Lexeme → List (Lexeme × Bool)
  | [] => []
  | lexeme :: behind =>
    (lexeme, decide (2 ≤ colons)) :: inPaths (colonsBehind colons lexeme) behind

/-- The words of a text that do not stand behind `::`. -/
def freeWords (text : String) : List String :=
  (inPaths 0 (lexemes text.toList)).filterMap fun placed =>
    if placed.2 then none else placed.1.word?

theorem mem_freeWords {name text : String} :
    name ∈ freeWords text ↔ (.word name.toList, false) ∈ inPaths 0 (lexemes text.toList) := by
  rw [freeWords, List.mem_filterMap]
  constructor
  · rintro ⟨⟨lexeme, qualified⟩, mem, picked⟩
    cases qualified with
    | true => cases picked
    | false =>
      cases lexeme with
      | word letters =>
        cases picked
        rwa [String.toList_ofList]
      | lifetime => cases picked
      | literal => cases picked
      | mark => cases picked
  · intro mem
    exact ⟨_, mem, congrArg some String.ofList_toList⟩

theorem map_fst_inPaths (colons : Nat) (parts : List Lexeme) :
    (inPaths colons parts).map Prod.fst = parts := by
  induction parts generalizing colons with
  | nil => rfl
  | cons part parts ih => rw [inPaths, List.map_cons, ih]

example : freeWords "From<a::T<'b, U>>" = ["From", "a", "U"] := by decide

section Lists

variable {α β : Type} [DecidableEq α] {f : α → List β} {a : α} {new : List β} {xs : List α}

theorem length_flatMap_replace :
    (xs.flatMap fun x => if x = a then new else f x).length + xs.count a * (f a).length =
      (xs.flatMap f).length + xs.count a * new.length := by
  induction xs with
  | nil => simp
  | cons x xs ih =>
    by_cases here : x = a
    · simp only [here, List.flatMap_cons, if_pos, List.length_append, List.count_cons_self,
        Nat.succ_mul]
      omega
    · simp only [here, List.flatMap_cons, List.length_append, List.count_cons_of_ne here, if_false]
      omega

theorem eq_of_flatMap_replace (length : new.length = (f a).length) (mem : a ∈ xs)
    (same : (xs.flatMap fun x => if x = a then new else f x) = xs.flatMap f) : new = f a := by
  induction xs with
  | nil => cases mem
  | cons x xs ih =>
    rw [List.flatMap_cons, List.flatMap_cons] at same
    by_cases here : x = a
    · rw [if_pos here, here] at same
      exact List.append_inj_left same length
    · rw [if_neg here] at same
      exact ih (List.mem_of_ne_of_mem (Ne.symm here) mem) (List.append_cancel_left same)

theorem flatMap_replace_eq_iff :
    (xs.flatMap fun x => if x = a then new else f x) = xs.flatMap f ↔ a ∉ xs ∨ new = f a := by
  constructor
  · intro same
    by_cases mem : a ∈ xs
    · have lengths := @length_flatMap_replace α β _ f a new xs
      rw [same, Nat.add_left_cancel_iff] at lengths
      have length := Nat.eq_of_mul_eq_mul_left (List.count_pos_iff.mpr mem) lengths
      exact .inr (eq_of_flatMap_replace length.symm mem same)
    · exact .inl mem
  · rintro (absent | rfl)
    · exact List.flatMap_congr fun x mem => if_neg (ne_of_mem_of_not_mem mem absent)
    · refine List.flatMap_congr fun x _ => ?_
      split
      next here => rw [here]
      next => rfl

end Lists

/-- The text with a new text in the place of every free occurrence of a word. -/
def replaceFree (name new text : String) : String :=
  String.ofList ((inPaths 0 (lexemes text.toList)).flatMap fun placed =>
    if placed = (.word name.toList, false) then new.toList else placed.1.text)

theorem replaceFree_eq_self_iff {name new text : String} :
    replaceFree name new text = text ↔ name ∉ freeWords text ∨ new = name := by
  have whole : (inPaths 0 (lexemes text.toList)).flatMap (·.1.text) = text.toList := by
    rw [← List.flatMap_map, map_fst_inPaths, flatMap_text_lexemes]
  rw [← String.toList_inj, replaceFree, String.toList_ofList, mem_freeWords, ← String.toList_inj]
  nth_rewrite 2 [← whole]
  exact flatMap_replace_eq_iff

theorem map_replaceFree_eq_self_iff {name new : String} {texts : List String} :
    texts.map (replaceFree name new) = texts ↔
      (∀ text ∈ texts, name ∉ freeWords text) ∨ new = name := by
  have each : texts.map (replaceFree name new) = texts ↔
      ∀ text ∈ texts, name ∉ freeWords text ∨ new = name := by
    nth_rewrite 2 [← List.map_id texts]
    simp only [List.map_inj_left, id, replaceFree_eq_self_iff]
  rw [each]
  by_cases same : new = name
  · simp [same]
  · simp [same]

end PlatformGate.Text
