import Mathlib.Data.List.Basic
import PlatformGate.Text.Literal

/-! String literals, read back. A literal is one token however its text looks: a reader that looks
out for the closing quotation mark finds the one that the literal ends with, and undoing the escapes
of what stands in front of it gives back the text. -/

namespace PlatformGate.Text

/-- Divides the text behind an opening quotation mark at the mark that closes it, which is the first
one that is not escaped. An escape is a backslash with the character behind it. -/
def closeLiteral? : List Char → Option (List Char × List Char)
  | [] => none
  | '\x22' :: rest => some ([], rest)
  | '\\' :: c :: rest =>
    (closeLiteral? rest).map fun (inner, behind) => ('\\' :: c :: inner, behind)
  | c :: rest => (closeLiteral? rest).map fun (inner, behind) => (c :: inner, behind)

/-- The inside of the literal that the text begins with, and the text behind it. -/
def readLiteral? : List Char → Option (List Char × List Char)
  | '\x22' :: rest => closeLiteral? rest
  | _ => none

def escape? : Char → Option Char
  | '\\' => some '\\'
  | '\x22' => some '\x22'
  | 'n' => some '\n'
  | _ => none

def unescape? : List Char → Option (List Char)
  | [] => some []
  | ['\\'] => none
  | '\\' :: c :: rest => do return (← escape? c) :: (← unescape? rest)
  | c :: rest => (unescape? rest).map (c :: ·)

theorem closeLiteral?_cons {c : Char} (notMark : c ≠ '\x22') (notEscape : c ≠ '\\')
    (rest : List Char) :
    closeLiteral? (c :: rest) =
      (closeLiteral? rest).map fun (inner, behind) => (c :: inner, behind) := by
  rw [closeLiteral?]
  · exact notMark
  · exact fun _ _ escape _ => notEscape escape

theorem unescape?_cons {c : Char} (notEscape : c ≠ '\\') (rest : List Char) :
    unescape? (c :: rest) = (unescape? rest).map (c :: ·) := by
  rw [unescape?]
  · exact fun escape _ => notEscape escape
  · exact fun _ _ escape _ => notEscape escape

def escaped (text : List Char) : List Char := text.flatMap literalChar

def replace (old : Char) (new text : List Char) : List Char :=
  text.flatMap fun c => if c = old then new else [c]

theorem toList_literal (text : String) :
    (literal text).toList = '\x22' :: (escaped text.toList ++ ['\x22']) := by
  simp [literal, escaped]

theorem escaped_cons (c : Char) (text : List Char) :
    escaped (c :: text) = literalChar c ++ escaped text := List.flatMap_cons

theorem literalChar_cases (c : Char) :
    (∃ d, literalChar c = ['\\', d] ∧ escape? d = some c ∧ d ≠ '\n') ∨
      literalChar c = [c] ∧ c ≠ '\\' ∧ c ≠ '\x22' ∧ c ≠ '\n' := by
  unfold literalChar
  by_cases backslash : c = '\\'
  · exact .inl ⟨'\\', if_pos backslash, congrArg some backslash.symm, by decide⟩
  by_cases mark : c = '\x22'
  · exact .inl ⟨'\x22', by rw [if_neg backslash, if_pos mark], congrArg some mark.symm, by decide⟩
  by_cases feed : c = '\n'
  · exact .inl ⟨'n', by rw [if_neg backslash, if_neg mark, if_pos feed], congrArg some feed.symm,
      by decide⟩
  · exact .inr ⟨by rw [if_neg backslash, if_neg mark, if_neg feed], backslash, mark, feed⟩

/-- Escaping by one replacement after the other comes to the same if the backslash is the first. -/
theorem escaped_eq_replace (text : List Char) :
    escaped text = replace '\n' ['\\', 'n'] (replace '\x22' ['\\', '\x22']
      (replace '\\' ['\\', '\\'] text)) := by
  unfold escaped replace
  rw [List.flatMap_assoc, List.flatMap_assoc]
  refine List.flatMap_congr fun c _ => ?_
  by_cases backslash : c = '\\'
  · subst backslash
    rfl
  by_cases mark : c = '\x22'
  · subst mark
    rfl
  · simp [literalChar, backslash, mark]

theorem lineFeed_not_mem_escaped (text : List Char) : '\n' ∉ escaped text := by
  intro mem
  obtain ⟨c, -, here⟩ := List.mem_flatMap.mp mem
  rcases literalChar_cases c with ⟨d, written, -, notFeed⟩ | ⟨written, -, -, notFeed⟩
  · rw [written] at here
    simp [notFeed.symm] at here
  · rw [written] at here
    exact notFeed (List.mem_singleton.mp here).symm

theorem closeLiteral?_escaped (text rest : List Char) :
    closeLiteral? (escaped text ++ '\x22' :: rest) = some (escaped text, rest) := by
  induction text with
  | nil => rfl
  | cons c text ih =>
    rw [escaped_cons, List.append_assoc]
    rcases literalChar_cases c with ⟨d, written, -, -⟩ | ⟨written, notEscape, notMark, -⟩
    · rw [written, List.cons_append, List.cons_append, List.nil_append, closeLiteral?, ih]
      rfl
    · rw [written, List.cons_append, List.nil_append, closeLiteral?_cons notMark notEscape, ih]
      rfl

theorem readLiteral?_literal (text : String) (rest : List Char) :
    readLiteral? ((literal text).toList ++ rest) = some (escaped text.toList, rest) := by
  have split : (literal text).toList ++ rest =
      '\x22' :: (escaped text.toList ++ '\x22' :: rest) := by
    rw [toList_literal]
    simp
  rw [split, readLiteral?, closeLiteral?_escaped]

theorem unescape?_escaped (text : List Char) : unescape? (escaped text) = some text := by
  induction text with
  | nil => rfl
  | cons c text ih =>
    rw [escaped_cons]
    rcases literalChar_cases c with ⟨d, written, stands, -⟩ | ⟨written, notEscape, -, -⟩
    · rw [written, List.cons_append, List.cons_append, List.nil_append, unescape?, stands, ih]
      rfl
    · rw [written, List.singleton_append, unescape?_cons notEscape, ih]
      rfl

theorem literal_injective {text other : String} (h : literal text = literal other) :
    text = other := by
  have same := congrArg (fun written => readLiteral? (written.toList ++ [])) h
  simp only [readLiteral?_literal, Option.some.injEq, Prod.mk.injEq, and_true] at same
  have read := congrArg unescape? same
  rw [unescape?_escaped, unescape?_escaped] at read
  exact String.toList_inj.mp (Option.some.inj read)

def HasReturn (text : String) : Prop := '\r' ∈ text.toList

instance (text : String) : Decidable (HasReturn text) :=
  inferInstanceAs (Decidable (_ ∈ _))

theorem hasReturn_append {left right : String} :
    HasReturn (left ++ right) ↔ HasReturn left ∨ HasReturn right := by
  rw [HasReturn, String.toList_append, List.mem_append]
  rfl

theorem not_hasReturn_ofList {letters : List Char} (plain : '\r' ∉ letters) :
    ¬HasReturn (String.ofList letters) := by
  rwa [HasReturn, String.toList_ofList]

theorem return_mem_literalChar {c : Char} : '\r' ∈ literalChar c ↔ c = '\r' := by
  unfold literalChar
  split_ifs with backslash mark feed
  · simp [backslash]
  · simp [mark]
  · simp [feed]
  · rw [List.mem_singleton, eq_comm]

theorem hasReturn_literal {text : String} : HasReturn (literal text) ↔ HasReturn text := by
  rw [HasReturn, toList_literal, escaped]
  simp [return_mem_literalChar, HasReturn]

end PlatformGate.Text
