import PlatformGate.Markup.Definitions

/-!
Values: what is written between quotation marks, with its references replaced. In the value of an
attribute every reference is replaced, by the text of an entity as well, which may hold references
in turn; in that of an entity only numbers are.
-/

namespace PlatformGate.Markup

structure Growth where
  text : List Char
  spent : Nat
  deriving DecidableEq, Repr

namespace Growth

def push (growth : Growth) (c : Char) : Growth := { growth with text := c :: growth.text }

def pushSpace (tokenized : Bool) (growth : Growth) : Growth :=
  if tokenized ∧ (growth.text.isEmpty ∨ growth.text.head? = some ' ') then growth
  else growth.push ' '

def pushNumber (tokenized : Bool) (growth : Growth) (c : Char) : Growth :=
  if c = ' ' then growth.pushSpace tokenized else growth.push c

def value (tokenized : Bool) (growth : Growth) : List Char :=
  match tokenized, growth.text with
  | true, ' ' :: text => text.reverse
  | _, text => text.reverse

end Growth

def referenceFailure (place : List Char) : Stop → InnerFailure
  | .invalid other => ⟨.invalidToken, some other⟩
  | _ => ⟨.invalidToken, some place⟩

/-- Adds the text of an attribute value. Entities that are being replaced are not `available`, and
`excessive` says when they have added too much. -/
def appendValue (definitions : Definitions) (excessive : Nat → Bool) (tokenized : Bool)
    (available : EntityTable) (encoding : Encoding) (text : List Char) (growth : Growth) :
    Except InnerFailure Growth :=
  match text with
  | [] => .ok growth
  | '<' :: rest => .error ⟨.invalidToken, some ('<' :: rest)⟩
  | '\r' :: '\n' :: rest =>
    let growth := if encoding.endsLines then growth else growth.pushSpace tokenized
    appendValue definitions excessive tokenized available encoding rest
      (growth.pushSpace tokenized)
  | '&' :: rest =>
    match _ : readReference encoding rest with
    | .error stop => .error (referenceFailure ('&' :: rest) stop)
    | .ok (.number number, behind) =>
      match charOfNumber? number with
      | none => .error ⟨.invalidCharacterNumber, some ('&' :: rest)⟩
      | some c =>
        appendValue definitions excessive tokenized available encoding behind
          (growth.pushNumber tokenized c)
    | .ok (.entity name, behind) =>
      match predefinedEntities.lookup name with
      | some c =>
        appendValue definitions excessive tokenized available encoding behind (growth.push c)
      | none =>
        match _ : definitions.lookUp available name with
        | .error fault => .error ⟨fault, none⟩
        | .ok none =>
          appendValue definitions excessive tokenized available encoding behind growth
        | .ok (some .external) => .error ⟨.externalEntity, some ('&' :: rest)⟩
        | .ok (some .binary) => .error ⟨.binaryEntity, some ('&' :: rest)⟩
        | .ok (some (.internal inner)) =>
          let spent := growth.spent + Encoding.stored.size inner
          if excessive spent then .error ⟨.excessiveExpansion, none⟩
          else
            match appendValue definitions excessive tokenized (available.without name) .stored inner
                { growth with spent := spent } with
            | .error failure => .error ⟨failure.fault, none⟩
            | .ok growth =>
              appendValue definitions excessive tokenized available encoding behind growth
  | c :: rest =>
    appendValue definitions excessive tokenized available encoding rest
      (if isSpace c then growth.pushSpace tokenized else growth.push c)
termination_by available.weight + text.length
decreasing_by
  · simp only [List.length_cons]; omega
  · have := readReference_length ‹_›
    simp only [List.length_cons]; omega
  · have := readReference_length ‹_›
    simp only [List.length_cons]; omega
  · have := readReference_length ‹_›
    simp only [List.length_cons]; omega
  · exact Nat.lt_add_right _ (Definitions.lookUp_weight ‹_›)
  · have := readReference_length ‹_›
    simp only [List.length_cons]; omega
  · simp

def attributeValue (definitions : Definitions) (excessive : Nat → Bool) (tokenized : Bool)
    (available : EntityTable) (encoding : Encoding) (text : List Char) (spent : Nat) :
    Except InnerFailure (List Char × Nat) := do
  let growth ← appendValue definitions excessive tokenized available encoding text ⟨[], spent⟩
  return (growth.value tokenized, growth.spent)

/-- The fault of a percent sign in the value of an entity: only a parameter entity could be meant,
and none may be. -/
def percentFailure (encoding : Encoding) (rest : List Char) : InnerFailure :=
  if rest.head?.any fun c => isSpace c || c == '%' then ⟨.invalidToken, some rest⟩
  else
    match readPlainName encoding rest with
    | .error stop => referenceFailure ('%' :: rest) stop
    | .ok (_, ';' :: _) => ⟨.parameterEntity, some ('%' :: rest)⟩
    | .ok (_, []) => ⟨.invalidToken, some ('%' :: rest)⟩
    | .ok (_, behind) => ⟨.invalidToken, some behind⟩

def entityText (encoding : Encoding) (before : List Char) (text : List Char) :
    Except InnerFailure (List Char) :=
  match text with
  | [] => .ok before.reverse
  | '%' :: rest => .error (percentFailure encoding rest)
  | '\r' :: '\n' :: rest => entityText encoding ('\n' :: before) rest
  | '&' :: rest =>
    match _ : readReference encoding rest with
    | .error stop => .error (referenceFailure ('&' :: rest) stop)
    | .ok (.entity name, behind) =>
      entityText encoding (';' :: name.reverse ++ '&' :: before) behind
    | .ok (.number number, behind) =>
      match charOfNumber? number with
      | none => .error ⟨.invalidCharacterNumber, some ('&' :: rest)⟩
      | some c => entityText encoding (c :: before) behind
  | c :: rest => entityText encoding ((if c = '\r' then '\n' else c) :: before) rest
termination_by text.length
decreasing_by
  · simp only [List.length_cons]; omega
  · have := readReference_length ‹_›
    simp only [List.length_cons]; omega
  · have := readReference_length ‹_›
    simp only [List.length_cons]; omega
  · simp

end PlatformGate.Markup
