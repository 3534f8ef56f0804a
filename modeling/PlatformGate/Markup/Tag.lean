import PlatformGate.Markup.Token

/-!
Tags: the name of an element with its attributes as they are written, and the name of the element
that an end tag closes.
-/

namespace PlatformGate.Markup

def skipValue (encoding : Encoding) (mark : Char) (text : List Char) :
    Except Stop (List Char) :=
  match text with
  | [] => .error .ended
  | c :: rest =>
    if c = mark then .ok rest
    else if c = '&' then
      match _ : readReference encoding rest with
      | .error stop => .error stop
      | .ok (_, behind) => skipValue encoding mark behind
    else if c = '<' then .error (.invalid (c :: rest))
    else if isAllowed c then skipValue encoding mark rest
    else stopAt (c :: rest)
termination_by text.length
decreasing_by
  · have := readReference_length ‹_›
    simp only [List.length_cons]
    omega
  · simp

structure RawAttribute where
  name : TagName
  place : List Char
  value : List Char
  behind : List Char
  deriving DecidableEq, Repr

def readAttribute (encoding : Encoding) (text : List Char) : Read RawAttribute :=
  match readTagName encoding text with
  | .error stop => .error stop
  | .ok (name, behindName) =>
    match skipSpace behindName with
    | '=' :: behindSign =>
      match skipSpace behindSign with
      | mark :: behindMark =>
        if mark = '\x22' ∨ mark = '\x27' then
          match skipValue encoding mark behindMark with
          | .error stop => .error stop
          | .ok rest =>
            let length := behindMark.length - rest.length - 1
            .ok (⟨name, text, behindMark.take length, behindMark.drop length⟩, rest)
        else .error (.invalid (mark :: behindMark))
      | [] => .error .ended
    | _ => stopBehindName behindName

theorem skipValue_length {encoding : Encoding} {mark : Char} {text rest : List Char}
    (h : skipValue encoding mark text = .ok rest) : rest.length < text.length := by
  fun_induction skipValue encoding mark text with
  | case1 => cases h
  | case2 => cases h; simp
  | case3 => cases h
  | case4 =>
    rename_i found _ ih
    have h₁ := readReference_length found
    have h₂ := ih h
    simp only [List.length_cons]
    omega
  | case5 => cases h
  | case6 =>
    rename_i ih
    exact Nat.lt_succ_of_lt (ih h)
  | case7 => exact absurd h stopAt_ne_ok

theorem readAttribute_length {encoding : Encoding} {text rest : List Char}
    {attr : RawAttribute} (h : readAttribute encoding text = .ok (attr, rest)) :
    rest.length < text.length := by
  simp only [readAttribute] at h
  split at h
  next => cases h
  next behindName named =>
    have h₁ := readTagName_length named
    have h₂ := skipSpace_length_le behindName
    split at h
    next behindSign sign =>
      have h₃ := skipSpace_length_le behindSign
      rw [sign, List.length_cons] at h₂
      split at h
      next opened =>
        rw [opened, List.length_cons] at h₃
        split at h
        · split at h
          next => cases h
          next read =>
            have h₄ := skipValue_length read
            cases h
            omega
        · cases h
      next => cases h
    next => exact absurd h stopBehindName_ne_ok

/-- Reads the rest of a start tag behind the name or behind white space. The flag says whether the
element is empty, that is, whether its tag ends with a slash. -/
def readAttributes (encoding : Encoding) (text : List Char) :
    Read (List RawAttribute × Bool) :=
  match text with
  | '>' :: rest => .ok (([], false), rest)
  | '/' :: '>' :: rest => .ok (([], true), rest)
  | '/' :: rest => refuseAt rest
  | text =>
    match _ : readAttribute encoding text with
    | .error stop => .error stop
    | .ok (attr, behind) =>
      match behind with
      | c :: _ =>
        if isSpace c ∨ c = '/' ∨ c = '>' then
          match readAttributes encoding (skipSpace behind) with
          | .error stop => .error stop
          | .ok ((attributes, empty), rest) => .ok ((attr :: attributes, empty), rest)
        else .error (.invalid behind)
      | [] => .error .ended
termination_by text.length
decreasing_by
  have h₁ := readAttribute_length ‹_›
  have h₂ := skipSpace_length_le behind
  simp_all
  omega

structure StartTag where
  name : TagName
  attributes : List RawAttribute
  empty : Bool
  deriving DecidableEq, Repr

def readStartTag (encoding : Encoding) (text : List Char) : Read StartTag :=
  match readTagName encoding text with
  | .error stop => .error stop
  | .ok (name, behind) =>
    if behind.head?.any fun c => isSpace c || c == '/' || c == '>' then
      match readAttributes encoding (skipSpace behind) with
      | .error stop => .error stop
      | .ok ((attributes, empty), rest) => .ok (⟨name, attributes, empty⟩, rest)
    else stopAt behind

/-- Reads an end tag behind its slash. Colons in its name are not restricted, since the name has
to be that of the start tag. -/
def readEndTag (encoding : Encoding) : List Char → Read (List Char)
  | [] => .error .ended
  | c :: rest =>
    if encoding.isNameStart c then
      let isPart := fun c => encoding.isNamePart c || c == ':'
      let behind := rest.dropWhile isPart
      match skipSpace behind with
      | '>' :: more => .ok (c :: rest.takeWhile isPart, more)
      | _ => stopBehindName behind
    else stopAt (c :: rest)

theorem readAttributes_length {encoding : Encoding} {text rest : List Char}
    {found : List RawAttribute × Bool} (h : readAttributes encoding text = .ok (found, rest)) :
    rest.length < text.length := by
  fun_induction readAttributes encoding text generalizing found rest with
  | case1 => cases h; simp
  | case2 => cases h; simp only [List.length_cons]; omega
  | case3 => exact absurd h refuseAt_ne_ok
  | case4 => cases h
  | case5 =>
    rename_i failed _
    rw [failed] at h
    cases h
  | case6 =>
    rename_i c behind read _ _ _ _ _ inner ih
    have h₁ := readAttribute_length read
    have h₂ := skipSpace_length_le (c :: behind)
    have h₃ := ih inner
    rw [inner] at h
    cases h
    omega
  | case7 => cases h
  | case8 => cases h

theorem readStartTag_length {encoding : Encoding} {text rest : List Char} {tag : StartTag}
    (h : readStartTag encoding text = .ok (tag, rest)) : rest.length < text.length := by
  simp only [readStartTag] at h
  split at h
  next => cases h
  next behind named =>
    have h₁ := readTagName_length named
    split at h
    · split at h
      next => cases h
      next read =>
        have h₂ := readAttributes_length read
        have h₃ := skipSpace_length_le behind
        cases h
        omega
    · exact absurd h stopAt_ne_ok

theorem readEndTag_length {encoding : Encoding} {text name rest : List Char}
    (h : readEndTag encoding text = .ok (name, rest)) : rest.length < text.length := by
  cases text with
  | nil => simp [readEndTag] at h
  | cons c tail =>
    simp only [readEndTag] at h
    split at h
    · split at h
      next closed =>
        have h₁ := skipSpace_length_le
          (tail.dropWhile fun c => encoding.isNamePart c || c == ':')
        have h₂ := (tail.dropWhile_suffix fun c => encoding.isNamePart c || c == ':').length_le
        rw [closed, List.length_cons] at h₁
        cases h
        simp only [List.length_cons]
        omega
      next => exact absurd h stopBehindName_ne_ok
    · exact absurd h stopAt_ne_ok

end PlatformGate.Markup
