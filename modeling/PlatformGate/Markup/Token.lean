import PlatformGate.Markup.Encoding
import PlatformGate.Markup.Fault

/-!
The parts that tokens of a markup document are made of: names and references, comments and
instructions. Each reader takes the text behind the characters that announce the part. A token
that cannot go on stops at the offending character; one that the document does not finish, or
that it finishes in the middle of a character, is reported as a whole.
-/

namespace PlatformGate.Markup

inductive Stop where
  | invalid (place : List Char)
  | partialCharacter
  | ended
  deriving DecidableEq, Repr

def Stop.failure (token : List Char) : Stop → Failure
  | invalid place => ⟨.invalidToken, place⟩
  | partialCharacter => ⟨.partialCharacter, token⟩
  | ended => ⟨.unclosedToken, token⟩

abbrev Read (α : Type) := Except Stop (α × List Char)

def refuseAt {α : Type} (rest : List Char) : Except Stop α :=
  .error (if rest.isEmpty then .ended else .invalid rest)

/-- The stop in front of a character of which none of many may stand there. To know it, the whole
of the character is needed. -/
def stopAt {α : Type} : List Char → Except Stop α
  | [] => .error .ended
  | c :: rest => .error (if c = cutOff then .partialCharacter else .invalid (c :: rest))

def stopBehindName {α : Type} (behindName : List Char) : Except Stop α :=
  if behindName.head?.any isSpace then refuseAt (skipSpace behindName) else stopAt behindName

theorem bind_eq_ok {ε α β : Type} {x : Except ε α} {f : α → Except ε β} {value : β} :
    (x >>= f) = .ok value ↔ ∃ a, x = .ok a ∧ f a = .ok value := by
  cases x <;> simp [bind, Except.bind]

theorem refuseAt_ne_ok {α : Type} {rest : List Char} {value : α} :
    refuseAt rest ≠ .ok value := by
  simp [refuseAt]

theorem stopAt_ne_ok {α : Type} {rest : List Char} {value : α} : stopAt rest ≠ .ok value := by
  cases rest <;> simp [stopAt]

theorem stopBehindName_ne_ok {α : Type} {rest : List Char} {value : α} :
    stopBehindName rest ≠ .ok value := by
  unfold stopBehindName
  split
  · exact refuseAt_ne_ok
  · exact stopAt_ne_ok

def readPlainName (encoding : Encoding) : List Char → Read (List Char)
  | [] => .error .ended
  | c :: rest =>
    if encoding.isNameStart c then
      .ok (c :: rest.takeWhile encoding.isNamePart, rest.dropWhile encoding.isNamePart)
    else stopAt (c :: rest)

structure TagName where
  qualifier : Option (List Char)
  stem : List Char
  deriving DecidableEq, Repr

def TagName.written (name : TagName) : List Char :=
  match name.qualifier with
  | some qualifier => qualifier ++ ':' :: name.stem
  | none => name.stem

def readTagName (encoding : Encoding) (text : List Char) : Read TagName :=
  match readPlainName encoding text with
  | .error stop => .error stop
  | .ok (first, ':' :: rest) =>
    match readPlainName encoding rest with
    | .error stop => .error stop
    | .ok (_, ':' :: more) => .error (.invalid (':' :: more))
    | .ok (second, more) => .ok (⟨some first, second⟩, more)
  | .ok (first, rest) => .ok (⟨none, first⟩, rest)

inductive Reference where
  | entity (name : List Char)
  | number (value : Nat)
  deriving DecidableEq, Repr

def hexadecimalValue? (c : Char) : Option Nat :=
  if c.isDigit then some (c.toNat - '0'.toNat)
  else if 'a' ≤ c ∧ c ≤ 'f' then some (c.toNat - 'a'.toNat + 10)
  else if 'A' ≤ c ∧ c ≤ 'F' then some (c.toNat - 'A'.toNat + 10)
  else none

def decimalValue? (c : Char) : Option Nat :=
  if c.isDigit then some (c.toNat - '0'.toNat) else none

def readDigits (base : Nat) (digit? : Char → Option Nat) (value : Nat) : List Char → Read Nat
  | [] => .error .ended
  | c :: rest =>
    match digit? c with
    | some d => readDigits base digit? (base * value + d) rest
    | none => if c = ';' then .ok (value, rest) else .error (.invalid (c :: rest))

def readNumber (base : Nat) (digit? : Char → Option Nat) : List Char → Read Nat
  | [] => .error .ended
  | c :: rest =>
    match digit? c with
    | some d => readDigits base digit? d rest
    | none => .error (.invalid (c :: rest))

def readReference (encoding : Encoding) : List Char → Read Reference
  | '#' :: 'x' :: rest =>
    match readNumber 16 hexadecimalValue? rest with
    | .error stop => .error stop
    | .ok (value, more) => .ok (.number value, more)
  | '#' :: rest =>
    match readNumber 10 decimalValue? rest with
    | .error stop => .error stop
    | .ok (value, more) => .ok (.number value, more)
  | text =>
    match readPlainName encoding text with
    | .error stop => .error stop
    | .ok (name, ';' :: rest) => .ok (.entity name, rest)
    | .ok (_, rest) => stopAt rest

def readComment : List Char → Except Stop (List Char)
  | '-' :: '-' :: '>' :: rest => .ok rest
  | '-' :: '-' :: rest => refuseAt rest
  | [] => .error .ended
  | c :: rest => if isAllowed c then readComment rest else stopAt (c :: rest)

def skipInstruction : List Char → Except Stop (List Char)
  | '?' :: '>' :: rest => .ok rest
  | [] => .error .ended
  | c :: rest => if isAllowed c then skipInstruction rest else stopAt (c :: rest)

/-- A processing instruction, or the declaration that a document may open with; of the latter the
text behind the target is kept. -/
inductive Instruction where
  | processing
  | declaration (body : List Char)
  deriving DecidableEq, Repr

/-- The target `xml` is reserved in every spelling. -/
def instructionOf (target body : List Char) : Option Instruction :=
  if target = "xml".toList then some (.declaration body)
  else if target.map Char.toLower = "xml".toList then none
  else some .processing

def readInstruction (encoding : Encoding) (text : List Char) : Read Instruction :=
  match readPlainName encoding text with
  | .error stop => .error stop
  | .ok (target, behind) =>
    match behind with
    | [] => .error .ended
    | c :: inner =>
      if isSpace c then
        match instructionOf target behind with
        | none => .error (.invalid behind)
        | some instruction =>
          match skipInstruction inner with
          | .error stop => .error stop
          | .ok rest => .ok (instruction, rest)
      else if c = '?' then
        match instructionOf target behind, inner with
        | none, _ => .error (.invalid behind)
        | some instruction, '>' :: rest => .ok (instruction, rest)
        | some _, other => refuseAt other
      else stopAt behind

theorem readPlainName_length {encoding : Encoding} {text name rest : List Char}
    (h : readPlainName encoding text = .ok (name, rest)) : rest.length < text.length := by
  cases text with
  | nil => simp [readPlainName] at h
  | cons c tail =>
    simp only [readPlainName] at h
    split at h
    · cases h
      exact Nat.lt_succ_of_le (List.dropWhile_suffix encoding.isNamePart).length_le
    · exact absurd h stopAt_ne_ok

theorem readTagName_length {encoding : Encoding} {text rest : List Char} {name : TagName}
    (h : readTagName encoding text = .ok (name, rest)) : rest.length < text.length := by
  simp only [readTagName] at h
  split at h
  next => cases h
  next found =>
    have h₁ := readPlainName_length found
    rw [List.length_cons] at h₁
    split at h
    next => cases h
    next => cases h
    next read =>
      have h₂ := readPlainName_length read
      cases h
      omega
  next found =>
    have h₁ := readPlainName_length found
    cases h
    exact h₁

theorem readDigits_length {base value result : Nat} {digit? : Char → Option Nat}
    {text rest : List Char} (h : readDigits base digit? value text = .ok (result, rest)) :
    rest.length < text.length := by
  induction text generalizing value with
  | nil => simp [readDigits] at h
  | cons c tail ih =>
    simp only [readDigits] at h
    split at h
    · exact Nat.lt_succ_of_lt (ih h)
    · split at h
      · cases h; simp
      · cases h

theorem readNumber_length {base result : Nat} {digit? : Char → Option Nat}
    {text rest : List Char} (h : readNumber base digit? text = .ok (result, rest)) :
    rest.length < text.length := by
  cases text with
  | nil => simp [readNumber] at h
  | cons c tail =>
    simp only [readNumber] at h
    split at h
    · exact Nat.lt_succ_of_lt (readDigits_length h)
    · cases h

theorem readReference_length {encoding : Encoding} {text rest : List Char}
    {reference : Reference} (h : readReference encoding text = .ok (reference, rest)) :
    rest.length < text.length := by
  unfold readReference at h
  split at h
  next =>
    split at h
    next => cases h
    next found =>
      have := readNumber_length found
      cases h
      simp only [List.length_cons]
      omega
  next =>
    split at h
    next => cases h
    next found =>
      have := readNumber_length found
      cases h
      simp only [List.length_cons]
      omega
  next =>
    split at h
    next => cases h
    next found =>
      have := readPlainName_length found
      cases h
      rw [List.length_cons] at this
      omega
    next => exact absurd h stopAt_ne_ok

theorem readComment_length {text rest : List Char} (h : readComment text = .ok rest) :
    rest.length < text.length := by
  fun_induction readComment text with
  | case1 => cases h; simp only [List.length_cons]; omega
  | case2 => exact absurd h refuseAt_ne_ok
  | case3 => cases h
  | case4 => rename_i ih; exact Nat.lt_succ_of_lt (ih h)
  | case5 => exact absurd h stopAt_ne_ok

theorem skipInstruction_length {text rest : List Char} (h : skipInstruction text = .ok rest) :
    rest.length < text.length := by
  fun_induction skipInstruction text with
  | case1 => cases h; simp only [List.length_cons]; omega
  | case2 => cases h
  | case3 => rename_i ih; exact Nat.lt_succ_of_lt (ih h)
  | case4 => exact absurd h stopAt_ne_ok

theorem readInstruction_length {encoding : Encoding} {text rest : List Char}
    {instruction : Instruction} (h : readInstruction encoding text = .ok (instruction, rest)) :
    rest.length < text.length := by
  simp only [readInstruction] at h
  split at h
  next => cases h
  next named =>
    have h₁ := readPlainName_length named
    split at h
    next => cases h
    next =>
      rw [List.length_cons] at h₁
      split at h
      · split at h
        next => cases h
        next =>
          split at h
          next => cases h
          next read =>
            have h₂ := skipInstruction_length read
            cases h
            omega
      · split at h
        · split at h
          next => cases h
          next =>
            cases h
            rw [List.length_cons] at h₁
            omega
          next => exact absurd h refuseAt_ne_ok
        · exact absurd h stopAt_ne_ok

end PlatformGate.Markup
