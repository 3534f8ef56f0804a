import PlatformGate.Markup.Token

/-!
Tokens outside of the root element: white space, comments and instructions, and what a document
type is made of. A token is told without regard to whether it may stand where it does.
-/

namespace PlatformGate.Markup

/-- Words by their colons: a name without one, a name with one between its parts, and all else that
is made of the same characters. -/
inductive WordKind where
  | plain
  | qualified
  | loose
  deriving DecidableEq, Repr

inductive OuterToken where
  | space
  | comment
  | instruction
  | declaration (body : List Char)
  | root
  | opening (keyword : List Char)
  | conditional
  | conditionalEnd
  | word (kind : WordKind) (text : List Char)
  | repeatable
  | keyword (text : List Char)
  | literal (text : List Char)
  | parameterEntity
  | percent
  | sign (c : Char)
  | groupEnd (occurrence : Option Char)
  deriving DecidableEq, Repr

def isAnyOf (characters : String) (c : Char) : Bool := characters.toList.contains c

def skipQuoted (mark : Char) : List Char → Except Stop (List Char)
  | [] => .error .ended
  | c :: rest =>
    if c = mark then
      if rest.head?.all (isAnyOf " \t\r\n>%[") then .ok rest else .error (.invalid rest)
    else if isAllowed c then skipQuoted mark rest
    else stopAt (c :: rest)

/-- Skips what a word goes on with, and tells what kind of word it is, where it has been of the
given kind so far. -/
def skipWord (encoding : Encoding) (kind : WordKind) : List Char → Read WordKind
  | [] => .ok (kind, [])
  | c :: rest =>
    if encoding.isNamePart c then skipWord encoding kind rest
    else if c = ':' then
      if kind = .plain then
        match rest with
        | [] => .error .ended
        | next :: _ =>
          skipWord encoding (if encoding.isNamePart next then .qualified else .loose) rest
      else skipWord encoding .loose rest
    else .ok (kind, c :: rest)

def readWord (encoding : Encoding) (first : Char) (rest : List Char) :
    Except Stop (OuterToken × List Char) := do
  let (kind, behind) ←
    skipWord encoding (if encoding.isNameStart first then .plain else .loose) rest
  let text := first :: rest.take (rest.length - behind.length)
  match behind with
  | [] => return (.word kind text, [])
  | c :: more =>
    if isAnyOf " \t\r\n>),|[%" c then return (.word kind text, behind)
    else if isAnyOf "+*?" c then
      if kind = .loose then .error (.invalid behind) else return (.repeatable, more)
    else stopAt behind

def readPercent (encoding : Encoding) (rest : List Char) : Read OuterToken :=
  if rest.head?.any fun c => isSpace c || c == '%' then .ok (.percent, rest)
  else
    match readPlainName encoding rest with
    | .error stop => .error stop
    | .ok (_, ';' :: behind) => .ok (.parameterEntity, behind)
    | .ok (_, behind) => stopAt behind

def readKeyword (encoding : Encoding) (rest : List Char) : Read OuterToken :=
  match readPlainName encoding rest with
  | .error stop => .error stop
  | .ok (name, behind) =>
    if behind.head?.all (isAnyOf " \t\r\n)>%|") then .ok (.keyword name, behind)
    else stopAt behind

def readBracketEnd : List Char → Read OuterToken
  | ']' :: '>' :: rest => .ok (.conditionalEnd, rest)
  | [']'] => .error .ended
  | rest => .ok (.sign ']', rest)

def readGroupEnd : List Char → Read OuterToken
  | [] => .ok (.groupEnd none, [])
  | c :: rest =>
    if isAnyOf "*?+" c then .ok (.groupEnd (some c), rest)
    else if isAnyOf " \t\r\n>,|)" c then .ok (.groupEnd none, c :: rest)
    else .error (.invalid (c :: rest))

def readOpening (encoding : Encoding) (text : List Char) : Read OuterToken :=
  let isLetter := fun c => encoding.isSingle c && encoding.isNameStart c
  let word := text.takeWhile isLetter
  match text.dropWhile isLetter with
  | [] => .error .ended
  | c :: rest =>
    if word.isEmpty then .error (.invalid (c :: rest))
    else if isSpace c then .ok (.opening word, c :: rest)
    else if c = '%' then
      match rest with
      | [] => .error .ended
      | next :: _ =>
        if isSpace next ∨ next = '%' then .error (.invalid (c :: rest))
        else .ok (.opening word, c :: rest)
    else .error (.invalid (c :: rest))

def readOuterMarkup (encoding : Encoding) : List Char → Except Stop (OuterToken × List Char)
  | [] => .error .ended
  | '!' :: '-' :: '-' :: rest => do return (.comment, ← readComment rest)
  | '!' :: '-' :: other => refuseAt other
  | '!' :: '[' :: rest => .ok (.conditional, rest)
  | '!' :: rest => readOpening encoding rest
  | '?' :: rest => do
    match ← readInstruction encoding rest with
    | (.processing, behind) => return (.instruction, behind)
    | (.declaration body, behind) =>
      return (.declaration (body.take (body.length - behind.length - 2)), behind)
  | c :: rest =>
    if !encoding.isSingle c || encoding.isNameStart c then .ok (.root, rest)
    else .error (.invalid (c :: rest))

def readOuter (encoding : Encoding) : List Char → Except Stop (OuterToken × List Char)
  | [] => .error .ended
  | c :: rest =>
    if isSpace c then .ok (.space, rest)
    else if c = '<' then readOuterMarkup encoding rest
    else if c = '\x22' ∨ c = '\x27' then do
      let behind ← skipQuoted c rest
      return (.literal (rest.take (rest.length - behind.length - 1)), behind)
    else if isAnyOf ",[|>(" c then .ok (.sign c, rest)
    else if c = ']' then readBracketEnd rest
    else if c = ')' then readGroupEnd rest
    else if c = '%' then readPercent encoding rest
    else if c = '#' then readKeyword encoding rest
    else if encoding.isNamePart c ∨ c = ':' then readWord encoding c rest
    else stopAt (c :: rest)

/-- Tokens that the end of the document completes; a part of a unit that is left over there is no
token by itself. -/
def OuterToken.absorbsEnd : OuterToken → Bool
  | word _ _ => true
  | keyword _ => true
  | literal _ => true
  | sign c => c == ']'
  | groupEnd occurrence => occurrence.isNone
  | _ => false

theorem skipQuoted_length {mark : Char} {text rest : List Char}
    (h : skipQuoted mark text = .ok rest) : rest.length < text.length := by
  fun_induction skipQuoted mark text with
  | case1 => cases h
  | case2 => cases h; simp
  | case3 => cases h
  | case4 =>
    rename_i ih
    exact Nat.lt_succ_of_lt (ih h)
  | case5 => exact absurd h stopAt_ne_ok

theorem skipWord_length {encoding : Encoding} {kind found : WordKind} {text rest : List Char}
    (h : skipWord encoding kind text = .ok (found, rest)) : rest.length ≤ text.length := by
  fun_induction skipWord encoding kind text with
  | case1 => cases h; simp
  | case2 =>
    rename_i ih
    exact Nat.le_succ_of_le (ih h)
  | case3 => cases h
  | case4 =>
    rename_i ih
    exact Nat.le_succ_of_le (ih h)
  | case5 =>
    rename_i ih
    exact Nat.le_succ_of_le (ih h)
  | case6 => cases h; simp

theorem readWord_length {encoding : Encoding} {first : Char} {text rest : List Char}
    {token : OuterToken} (h : readWord encoding first text = .ok (token, rest)) :
    rest.length ≤ text.length := by
  obtain ⟨⟨kind, behind⟩, skipped, h⟩ := bind_eq_ok.mp h
  have h₁ := skipWord_length skipped
  dsimp only at h
  split at h
  next => cases h; simp
  next =>
    split at h
    · cases h
      exact h₁
    · split at h
      · split at h
        · cases h
        · cases h
          rw [List.length_cons] at h₁
          omega
      · exact absurd h stopAt_ne_ok

theorem readPercent_length {encoding : Encoding} {text rest : List Char} {token : OuterToken}
    (h : readPercent encoding text = .ok (token, rest)) : rest.length ≤ text.length := by
  unfold readPercent at h
  split at h
  · cases h
    exact Nat.le_refl _
  · split at h
    next => cases h
    next named =>
      have := readPlainName_length named
      cases h
      rw [List.length_cons] at this
      omega
    next => exact absurd h stopAt_ne_ok

theorem readKeyword_length {encoding : Encoding} {text rest : List Char} {token : OuterToken}
    (h : readKeyword encoding text = .ok (token, rest)) : rest.length ≤ text.length := by
  unfold readKeyword at h
  split at h
  next => cases h
  next named =>
    have := readPlainName_length named
    split at h
    · cases h
      omega
    · exact absurd h stopAt_ne_ok

theorem readBracketEnd_length {text rest : List Char} {token : OuterToken}
    (h : readBracketEnd text = .ok (token, rest)) : rest.length ≤ text.length := by
  unfold readBracketEnd at h
  split at h
  next => cases h; simp only [List.length_cons]; omega
  next => cases h
  next => cases h; exact Nat.le_refl _

theorem readGroupEnd_length {text rest : List Char} {token : OuterToken}
    (h : readGroupEnd text = .ok (token, rest)) : rest.length ≤ text.length := by
  unfold readGroupEnd at h
  split at h
  next => cases h; exact Nat.le_refl _
  next =>
    split at h
    · cases h; simp
    · split at h
      · cases h; exact Nat.le_refl _
      · cases h

theorem readOpening_length {encoding : Encoding} {text rest : List Char} {token : OuterToken}
    (h : readOpening encoding text = .ok (token, rest)) : rest.length ≤ text.length := by
  have skipped := (text.dropWhile_suffix fun c =>
    encoding.isSingle c && encoding.isNameStart c).length_le
  simp only [readOpening] at h
  split at h
  next => cases h
  next found =>
    split at h
    · cases h
    · split at h
      · cases h
        rwa [found] at skipped
      · split at h
        · split at h
          next => cases h
          next =>
            split at h
            · cases h
            · cases h
              rwa [found] at skipped
        · cases h

theorem readOuterMarkup_length {encoding : Encoding} {text rest : List Char}
    {token : OuterToken} (h : readOuterMarkup encoding text = .ok (token, rest)) :
    rest.length ≤ text.length := by
  unfold readOuterMarkup at h
  split at h
  next => cases h
  next =>
    obtain ⟨_, read, last⟩ := bind_eq_ok.mp h
    have := readComment_length read
    cases last
    simp only [List.length_cons]
    omega
  next => exact absurd h refuseAt_ne_ok
  next => cases h; simp only [List.length_cons]; omega
  next =>
    have := readOpening_length h
    simp only [List.length_cons]
    omega
  next =>
    obtain ⟨⟨instruction, _⟩, read, last⟩ := bind_eq_ok.mp h
    have := readInstruction_length read
    cases instruction <;> cases last <;> simp only [List.length_cons] <;> omega
  next =>
    split at h
    · cases h; simp
    · cases h

theorem readOuter_length {encoding : Encoding} {text rest : List Char} {token : OuterToken}
    (h : readOuter encoding text = .ok (token, rest)) : rest.length < text.length := by
  cases text with
  | nil => simp [readOuter] at h
  | cons c tail =>
    rw [List.length_cons]
    apply Nat.lt_succ_of_le
    simp only [readOuter] at h
    split at h
    · cases h; exact Nat.le_refl _
    split at h
    · exact readOuterMarkup_length h
    split at h
    · obtain ⟨_, read, last⟩ := bind_eq_ok.mp h
      have := skipQuoted_length read
      cases last
      omega
    split at h
    · cases h; exact Nat.le_refl _
    split at h
    · exact readBracketEnd_length h
    split at h
    · exact readGroupEnd_length h
    split at h
    · exact readPercent_length h
    split at h
    · exact readKeyword_length h
    split at h
    · exact readWord_length h
    · exact absurd h stopAt_ne_ok

end PlatformGate.Markup
