import PlatformGate.Options.Token

/-!
Skipping the bracketed parts of a trait path. Angle brackets and parentheses are each matched
among their own kind, a return type runs to the comma or bracket that ends it, and the `>` of an
arrow closes nothing. The functions also run from a place that is not at an opening bracket; the
depth may then go below zero.
-/

namespace PlatformGate.Options

open Text

def skipAngles (previous : Option Char) (depth : Int) : List Char → Option (List Char)
  | [] => none
  | c :: rest =>
    if c = '<' then skipAngles (some c) (depth + 1) rest
    else if c = '>' ∧ previous ≠ some '-' then
      if depth = 1 then some rest else skipAngles (some c) (depth - 1) rest
    else skipAngles (some c) depth rest

def skipParentheses (depth : Int) : List Char → Option (List Char)
  | [] => none
  | c :: rest =>
    if c = '(' then skipParentheses (depth + 1) rest
    else if c = ')' then
      if depth = 1 then some rest else skipParentheses (depth - 1) rest
    else skipParentheses depth rest

def opens (c : Char) : Bool := c == '(' || c == '[' || c == '<'

def closes (c : Char) : Bool := c == ')' || c == ']' || c == '>'

/-- The text from the comma or closing bracket that stands outside of all brackets, or nothing
if there is none. The kinds of brackets are not told apart. -/
def dropReturnType (previous : Option Char) (depth : Nat) : List Char → List Char
  | [] => []
  | c :: rest =>
    if opens c then dropReturnType (some c) (depth + 1) rest
    else if closes c ∧ previous ≠ some '-' then
      match depth with
      | 0 => c :: rest
      | outer + 1 => dropReturnType (some c) outer rest
    else if c = ',' ∧ depth = 0 then c :: rest
    else dropReturnType (some c) depth rest

def previousOfStart (previous : Option Char) (text : List Char) : Option Char :=
  if (skipBlank text).length = text.length then previous else some ' '

def skipReturnType (previous : Option Char) (text : List Char) : Outcome Unit :=
  let start := skipBlank text
  let rest := dropReturnType (previousOfStart previous text) 0 start
  if rest.length = start.length then .failed .returnType start rest else .done () rest

theorem skipAngles_length {previous : Option Char} {depth : Int} {text rest : List Char}
    (h : skipAngles previous depth text = some rest) : rest.length < text.length := by
  induction text generalizing previous depth with
  | nil => simp [skipAngles] at h
  | cons c tail ih =>
    simp only [skipAngles] at h
    have shorter : ∀ p d, skipAngles p d tail = some rest → rest.length < (c :: tail).length :=
      fun p d e => Nat.lt_succ_of_lt (ih e)
    split at h
    · exact shorter _ _ h
    · split at h
      · split at h
        · cases h; simp
        · exact shorter _ _ h
      · exact shorter _ _ h

theorem skipParentheses_length {depth : Int} {text rest : List Char}
    (h : skipParentheses depth text = some rest) : rest.length < text.length := by
  induction text generalizing depth with
  | nil => simp [skipParentheses] at h
  | cons c tail ih =>
    simp only [skipParentheses] at h
    have shorter : ∀ d, skipParentheses d tail = some rest → rest.length < (c :: tail).length :=
      fun d e => Nat.lt_succ_of_lt (ih e)
    split at h
    · exact shorter _ h
    · split at h
      · split at h
        · cases h; simp
        · exact shorter _ h
      · exact shorter _ h

theorem dropReturnType_suffix (previous : Option Char) (depth : Nat) (text : List Char) :
    dropReturnType previous depth text <:+ text := by
  induction text generalizing previous depth with
  | nil => exact List.suffix_refl _
  | cons c rest ih =>
    simp only [dropReturnType]
    split
    · exact (ih _ _).trans (List.suffix_cons c rest)
    · split
      · cases depth with
        | zero => exact List.suffix_refl _
        | succ outer => exact (ih _ _).trans (List.suffix_cons c rest)
      · split
        · exact List.suffix_refl _
        · exact (ih _ _).trans (List.suffix_cons c rest)

theorem skipReturnType_length {previous : Option Char} {text rest : List Char}
    (h : skipReturnType previous text = .done () rest) : rest.length ≤ text.length := by
  simp only [skipReturnType] at h
  split at h
  · cases h
  · cases h
    exact Nat.le_trans (dropReturnType_suffix _ _ _).length_le (skipBlank_length_le text)

end PlatformGate.Options
