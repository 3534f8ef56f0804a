import PlatformGate.Markup.Element
import PlatformGate.Markup.Namespace
import PlatformGate.Markup.Value

/-!
The content of the root element: tags, character data, references, and what leaves no trace.
Character data counts for an element only in front of its first child, where comments and
instructions do not divide it; a section of character data is taken as it is. The text of an
entity is content that has to be complete in itself; whatever is wrong with it is reported at the
reference in the document.
-/

namespace PlatformGate.Markup

inductive Token where
  | characters (text : List Char)
  | startTag (tag : StartTag)
  | endTag (name : List Char)
  | entity (name : List Char)
  deriving DecidableEq, Repr

def sectionOpening : List Char := "CDATA[".toList

/-- Reads the word that opens a section of character data. It is complete if the document has as
many units left, whatever they are. -/
def readSectionOpening (encoding : Encoding) (text : List Char) : Except Stop (List Char) :=
  let least := sectionOpening.length
  if encoding.size (text.take least) < encoding.unit * least then .error .ended
  else
    let agreeing := ((text.zip sectionOpening).takeWhile fun pair => pair.1 == pair.2).length
    if agreeing = sectionOpening.length then .ok (text.drop agreeing)
    else .error (.invalid (text.drop agreeing))

def Encoding.lineEnd (encoding : Encoding) (feeds : Bool) : List Char :=
  if encoding.endsLines then ['\n'] else if feeds then ['\r', '\n'] else ['\r']

/-- Reads a section of character data up to its closing, behind the data `before`, which is in
reverse order. A section that does not end is reported where its last characters could still have
belonged to the closing or to a line end. -/
def readSection (encoding : Encoding) (before : List Char) :
    List Char → Except Failure (List Char × List Char)
  | ']' :: ']' :: '>' :: rest => .ok (before.reverse, rest)
  | [] => .error ⟨.unclosedCharacterData, []⟩
  | [']'] => .error ⟨.unclosedCharacterData, [']']⟩
  | [']', ']'] => .error ⟨.unclosedCharacterData, [']', ']']⟩
  | ['\r'] => .error ⟨.unclosedCharacterData, ['\r']⟩
  | '\r' :: '\n' :: rest =>
    readSection encoding ((encoding.lineEnd true).reverse ++ before) rest
  | c :: rest =>
    if c = '\r' then readSection encoding (encoding.lineEnd false ++ before) rest
    else if isAllowed c then readSection encoding (c :: before) rest
    else if c = cutOff then .error ⟨.partialCharacter, c :: rest⟩
    else .error ⟨.invalidToken, c :: rest⟩

def Stop.guard {α : Type} (start : List Char) (read : Except Stop α) : Except Failure α :=
  match read with
  | .ok value => .ok value
  | .error stop => .error (stop.failure start)

theorem guard_eq_ok {α : Type} {start : List Char} {read : Except Stop α} {value : α} :
    Stop.guard start read = .ok value ↔ read = .ok value := by
  cases read <;> simp [Stop.guard]

def readMarkup (encoding : Encoding) (start rest : List Char) :
    Except Failure (Token × List Char) :=
  match rest with
  | '/' :: name => do
    let (written, behind) ← Stop.guard start (readEndTag encoding name)
    return (.endTag written, behind)
  | '!' :: '-' :: '-' :: text => do
    return (.characters [], ← Stop.guard start (readComment text))
  | '!' :: '-' :: other => Stop.guard start (refuseAt other)
  | '!' :: '[' :: word => do
    let inner ← Stop.guard start (readSectionOpening encoding word)
    let (text, behind) ← readSection encoding [] inner
    return (.characters text, behind)
  | '!' :: other => Stop.guard start (refuseAt other)
  | '?' :: text => do
    match ← Stop.guard start (readInstruction encoding text) with
    | (.processing, behind) => return (.characters [], behind)
    | (.declaration _, _) => .error ⟨.misplacedDeclaration, start⟩
  | text => do
    let (tag, behind) ← Stop.guard start (readStartTag encoding text)
    return (.startTag tag, behind)

def Reference.token : Reference → Except Fault Token
  | entity name =>
    match predefinedEntities.lookup name with
    | some c => .ok (.characters [c])
    | none => .ok (.entity name)
  | number value =>
    match charOfNumber? value with
    | some c => .ok (.characters [c])
    | none => .error .invalidCharacterNumber

def isPlain (c : Char) : Bool :=
  isAllowed c && c != '<' && c != '&' && c != ']' && c != '\r'

def readToken (encoding : Encoding) (text : List Char) : Except Failure (Token × List Char) :=
  match text with
  | ']' :: ']' :: '>' :: rest => .error ⟨.invalidToken, '>' :: rest⟩
  | ']' :: rest => .ok (.characters [']'], rest)
  | '\r' :: '\n' :: rest => .ok (.characters (encoding.lineEnd true), rest)
  | '\r' :: rest => .ok (.characters (encoding.lineEnd false), rest)
  | '<' :: rest => readMarkup encoding ('<' :: rest) rest
  | '&' :: rest => do
    let (reference, behind) ← Stop.guard ('&' :: rest) (readReference encoding rest)
    match reference.token with
    | .ok token => return (token, behind)
    | .error fault => .error ⟨fault, '&' :: rest⟩
  | c :: rest =>
    if isPlain c then .ok (.characters (c :: rest.takeWhile isPlain), rest.dropWhile isPlain)
    else Stop.guard (c :: rest) (stopAt (c :: rest))
  | [] => .error ⟨.unclosedToken, []⟩

theorem readSectionOpening_length {encoding : Encoding} {text rest : List Char}
    (h : readSectionOpening encoding text = .ok rest) : rest.length ≤ text.length := by
  simp only [readSectionOpening] at h
  split at h
  · cases h
  · split at h
    · cases h
      rw [List.length_drop]
      omega
    · cases h

theorem readSection_length {encoding : Encoding} {before text rest found : List Char}
    (h : readSection encoding before text = .ok (found, rest)) : rest.length < text.length := by
  fun_induction readSection encoding before text with
  | case1 => cases h; simp only [List.length_cons]; omega
  | case2 => cases h
  | case3 => cases h
  | case4 => cases h
  | case5 => cases h
  | case6 =>
    rename_i ih
    have := ih h
    simp only [List.length_cons]
    omega
  | case7 =>
    rename_i ih
    exact Nat.lt_succ_of_lt (ih h)
  | case8 =>
    rename_i ih
    exact Nat.lt_succ_of_lt (ih h)
  | case9 => cases h
  | case10 => cases h

theorem readMarkup_length {encoding : Encoding} {start text rest : List Char} {token : Token}
    (h : readMarkup encoding start text = .ok (token, rest)) :
    rest.length < text.length + 1 := by
  unfold readMarkup at h
  split at h
  next =>
    obtain ⟨⟨_, _⟩, read, last⟩ := bind_eq_ok.mp h
    have := readEndTag_length (guard_eq_ok.mp read)
    cases last
    simp only [List.length_cons]
    omega
  next =>
    obtain ⟨_, read, last⟩ := bind_eq_ok.mp h
    have := readComment_length (guard_eq_ok.mp read)
    cases last
    simp only [List.length_cons]
    omega
  next => exact absurd (guard_eq_ok.mp h) refuseAt_ne_ok
  next =>
    obtain ⟨_, opened, h⟩ := bind_eq_ok.mp h
    obtain ⟨⟨_, _⟩, read, last⟩ := bind_eq_ok.mp h
    have h₁ := readSectionOpening_length (guard_eq_ok.mp opened)
    have h₂ := readSection_length read
    cases last
    simp only [List.length_cons]
    omega
  next => exact absurd (guard_eq_ok.mp h) refuseAt_ne_ok
  next =>
    obtain ⟨⟨instruction, _⟩, read, last⟩ := bind_eq_ok.mp h
    have := readInstruction_length (guard_eq_ok.mp read)
    cases instruction with
    | processing =>
      cases last
      simp only [List.length_cons]
      omega
    | declaration => cases last
  next =>
    obtain ⟨⟨_, _⟩, read, last⟩ := bind_eq_ok.mp h
    have := readStartTag_length (guard_eq_ok.mp read)
    cases last
    omega

theorem readToken_length {encoding : Encoding} {text rest : List Char} {token : Token}
    (h : readToken encoding text = .ok (token, rest)) : rest.length < text.length := by
  unfold readToken at h
  split at h
  next => cases h
  next => cases h; simp
  next => cases h; simp only [List.length_cons]; omega
  next => cases h; simp
  next => exact readMarkup_length h
  next =>
    obtain ⟨⟨reference, _⟩, read, h⟩ := bind_eq_ok.mp h
    have := readReference_length (guard_eq_ok.mp read)
    cases meant : reference.token with
    | ok =>
      simp only [meant, pure, Except.pure, Except.ok.injEq, Prod.mk.injEq] at h
      rw [← h.2]
      simp only [List.length_cons]
      omega
    | error => simp [meant] at h
  next =>
    split at h
    · cases h
      exact Nat.lt_succ_of_le (List.dropWhile_suffix isPlain).length_le
    · exact absurd (guard_eq_ok.mp h) stopAt_ne_ok
  next => cases h

structure OpenElement where
  written : List Char
  tag : String
  attributes : List (String × String)
  text : List Char
  children : List Element
  scope : Scope

namespace OpenElement

def addText (element : OpenElement) (text : List Char) : OpenElement :=
  if element.children.isEmpty then { element with text := text.reverse ++ element.text }
  else element

def addChild (element : OpenElement) (child : Element) : OpenElement :=
  { element with children := child :: element.children }

def close (element : OpenElement) : Element :=
  { tag := element.tag
    attributes := element.attributes
    text := if element.text.isEmpty then none else some (String.ofList element.text.reverse)
    children := element.children.reverse }

end OpenElement

/-- The elements that content has opened, the innermost first, the root element once it is
complete, and the bytes that entities have added so far. -/
structure Progress where
  opened : List OpenElement
  root : Option Element
  spent : Nat

namespace Progress

def scope (progress : Progress) : Scope :=
  (progress.opened.head?.map (·.scope)).getD Scope.outermost

def attach (progress : Progress) (child : Element) : Progress :=
  match progress.opened with
  | [] => { progress with root := some child }
  | parent :: outer => { progress with opened := parent.addChild child :: outer }

def addText (progress : Progress) (text : List Char) : Progress :=
  match progress.opened with
  | [] => progress
  | element :: outer => { progress with opened := element.addText text :: outer }

def closeElement (progress : Progress) (start name : List Char) : Except Failure Progress :=
  match progress.opened with
  | [] => .error ⟨.mismatchedTag, start.drop 2⟩
  | element :: outer =>
    if name = element.written then
      .ok ({ progress with opened := outer }.attach element.close)
    else .error ⟨.mismatchedTag, start.drop 2⟩

def openElement (progress : Progress) (definitions : Definitions)
    (evaluate : RawAttribute → Nat → Except InnerFailure (List Char × Nat)) (start : List Char)
    (tag : StartTag) : Except Failure Progress := do
  let list ← tag.attributes.foldlM (AttributeList.addWritten evaluate start)
    ⟨[], [], progress.scope, progress.spent⟩
  let element : Except Fault OpenElement := do
    let list ← (definitions.rulesOf tag.name.written).foldlM AttributeList.addRuled list
    let attributes ← expandAttributes list.scope [] list.attributes.reverse
    let name ← expand list.scope ((list.scope.lookup none).getD []) tag.name
    return ⟨tag.name.written, String.ofList name, attributes, [], [], list.scope⟩
  match element with
  | .error fault => .error ⟨fault, start⟩
  | .ok element =>
    let progress := { progress with spent := list.spent }
    return if tag.empty then progress.attach element.close
      else { progress with opened := element :: progress.opened }

end Progress

structure Reading where
  source : Source
  definitions : Definitions

structure Entrance where
  level : Nat
  behind : List Char

namespace Reading

def encodingWithin (reading : Reading) (entrance : Option Entrance) : Encoding :=
  if entrance.isSome then .stored else reading.source.encoding

def isExceeded (reading : Reading) (entrance : Option Entrance) (rest : List Char) (spent : Nat) :
    Bool :=
  reading.source.isExceeded ((entrance.map (·.behind)).getD rest) spent

def evaluate (reading : Reading) (available : EntityTable) (entrance : Option Entrance)
    (element rest : List Char) (attr : RawAttribute) (spent : Nat) :
    Except InnerFailure (List Char × Nat) :=
  attributeValue reading.definitions (reading.isExceeded entrance rest)
    (reading.definitions.isTokenized element attr.name) available
    (reading.encodingWithin entrance) attr.value spent

def apply (reading : Reading) (available : EntityTable) (entrance : Option Entrance)
    (start : List Char) (token : Token) (rest : List Char) (progress : Progress) :
    Except Failure Progress :=
  match token with
  | .characters text => .ok (progress.addText text)
  | .entity name => .error ⟨.unreadEntity name, start⟩
  | .startTag tag =>
    progress.openElement reading.definitions
      (reading.evaluate available entrance tag.name.written rest) start tag
  | .endTag name =>
    if entrance.any (·.level == progress.opened.length) then .error ⟨.asynchronousEntity, start⟩
    else progress.closeElement start name

def finish (reading : Reading) (entrance : Option Entrance) (progress : Progress) :
    Except Failure (Progress × List Char) :=
  match entrance with
  | none => .error ⟨reading.source.endFault, []⟩
  | some entrance =>
    if progress.opened.length = entrance.level then .ok (progress, [])
    else .error ⟨.asynchronousEntity, []⟩

end Reading

/-- Where the end of the document is noticed, if it is noticed in front of the last characters:
brackets could have gone on, and a carriage return is part of a line end. -/
def earlyEnd? : List Char → Option (List Char)
  | ['\r'] => some ['\r']
  | [']'] => some []
  | [']', ']'] => some []
  | _ => none

def readContent (reading : Reading) (available : EntityTable) (entrance : Option Entrance)
    (text : List Char) (progress : Progress) : Except Failure (Progress × List Char) :=
  if text.isEmpty then reading.finish entrance progress
  else if entrance.isNone ∧ (earlyEnd? text).isSome then
    .error ⟨.noElement, (earlyEnd? text).getD []⟩
  else
    match _ : readToken (reading.encodingWithin entrance) text with
    | .error failure => .error failure
    | .ok (.entity name, rest) =>
      match _ : reading.definitions.lookUp available name with
      | .error fault => .error ⟨fault, text⟩
      | .ok none => .error ⟨.unreadEntity name, text⟩
      | .ok (some .external) => .error ⟨.unreadEntity name, text⟩
      | .ok (some .binary) => .error ⟨.binaryEntity, text⟩
      | .ok (some (.internal inner)) =>
        let spent := progress.spent + Encoding.stored.size inner
        if reading.isExceeded entrance rest spent then .error ⟨.excessiveExpansion, text⟩
        else
          match readContent reading (available.without name)
              (some ⟨progress.opened.length, (entrance.map (·.behind)).getD rest⟩) inner
              { progress with spent := spent } with
          | .error failure => .error ⟨failure.fault, text⟩
          | .ok (progress, _) => readContent reading available entrance rest progress
    | .ok (token, rest) =>
      match reading.apply available entrance text token rest progress with
      | .error failure => .error failure
      | .ok progress =>
        if progress.root.isSome then .ok (progress, rest)
        else readContent reading available entrance rest progress
termination_by available.weight + text.length
decreasing_by
  · exact Nat.lt_add_right _ (Definitions.lookUp_weight ‹_›)
  · exact Nat.add_lt_add_left (readToken_length ‹_›) _
  · exact Nat.add_lt_add_left (readToken_length ‹_›) _

end PlatformGate.Markup
