import PlatformGate.Identifier
import PlatformGate.Platform
import PlatformGate.Text.Blank

/-!
Reading at the beginning of option text. Each reader takes the text still to be read and answers
with a value and the text behind it, or with a fault. White space in front of a token is skipped,
also by a reader that then fails.
-/

namespace PlatformGate.Options

open Text

inductive Fault where
  | token (expected : List Char) (found : Option Char)
  | name (what : String)
  | group
  | clause (traitsAllowed : Bool)
  | unclosedAngle
  | unclosedParenthesis
  | returnType
  deriving DecidableEq, Repr

namespace Fault

def between (mark text : String) : String := mark ++ text ++ mark

def message : Fault → String
  | token expected found =>
    "expected " ++ between "`" (String.ofList expected) ++ ", found " ++
      between "`" ((found.map String.singleton).getD "end of input")
  | name what => "expected " ++ what
  | group =>
    "expected one of: " ++ ", ".intercalate (Group.suggested.map fun g => between "`" g.keyword)
  | clause traitsAllowed =>
    "expected one of: `include`, `exclude`" ++ (if traitsAllowed then ", `traits`" else "")
  | unclosedAngle => "unclosed `<` in trait path"
  | unclosedParenthesis => "unclosed `(` in trait path"
  | returnType => "expected return type after `->`"

end Fault

/-- The answer of a reader. A fault stands at the beginning of `place`, and reading had gone on
to the beginning of `rest`; both are endings of the text that was read. -/
inductive Outcome (α : Type) where
  | done (value : α) (rest : List Char)
  | failed (fault : Fault) (place rest : List Char)
  deriving DecidableEq, Repr

namespace Outcome

variable {α β : Type}

def map (f : α → β) : Outcome α → Outcome β
  | done value rest => done (f value) rest
  | failed fault place rest => failed fault place rest

def andThen (first : Outcome α) (next : α → List Char → Outcome β) : Outcome β :=
  match first with
  | done value rest => next value rest
  | failed fault place rest => failed fault place rest

@[simp] theorem map_eq_done {f : α → β} {o : Outcome α} {value : β} {rest : List Char} :
    o.map f = done value rest ↔ ∃ a, o = done a rest ∧ f a = value := by
  cases o with
  | done a behind =>
    constructor
    · intro h; cases h; exact ⟨a, rfl, rfl⟩
    · rintro ⟨_, h, rfl⟩; cases h; rfl
  | failed => simp [map]

@[simp] theorem andThen_eq_done {o : Outcome α} {next : α → List Char → Outcome β}
    {value : β} {rest : List Char} :
    o.andThen next = done value rest ↔
      ∃ a middle, o = done a middle ∧ next a middle = done value rest := by
  cases o with
  | done a behind =>
    constructor
    · exact fun h => ⟨a, behind, rfl, h⟩
    · rintro ⟨_, _, h, found⟩; cases h; exact found
  | failed => simp [andThen]

end Outcome

def follows (token text : List Char) : Bool := token.isPrefixOf (skipBlank text)

def expect (token text : List Char) : Outcome Unit :=
  let start := skipBlank text
  if token.isPrefixOf start then .done () (start.drop token.length)
  else .failed (.token token start.head?) start start

def nameAhead? (text : List Char) : Option (List Char) :=
  match leadingName (skipBlank text) with
  | [] => none
  | name => some name

def takeName (what : String) (text : List Char) : Outcome (List Char) :=
  let start := skipBlank text
  match leadingName start with
  | [] => .failed (.name what) start start
  | c :: name => .done (c :: name) (start.drop (name.length + 1))

theorem expect_length {token text rest : List Char} (nonempty : token ≠ [])
    (h : expect token text = .done () rest) : rest.length < text.length := by
  simp only [expect] at h
  split at h
  next found =>
    have bound := skipBlank_length_le text
    have fits := (List.isPrefixOf_iff_prefix.mp found).length_le
    have positive := List.length_pos_iff.mpr nonempty
    cases h
    rw [List.length_drop]
    omega
  next => cases h

theorem takeName_length {what : String} {text name rest : List Char}
    (h : takeName what text = .done name rest) : rest.length < text.length := by
  simp only [takeName] at h
  split at h
  next => cases h
  next c tail found =>
    have bound := skipBlank_length_le text
    have fits := (leadingName_isPrefix (skipBlank text)).length_le
    rw [found, List.length_cons] at fits
    cases h
    rw [List.length_drop]
    omega

end PlatformGate.Options
