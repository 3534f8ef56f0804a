import PlatformGate.Markup.Doctype.Stage

/-!
Document types: which token may follow which, and what the declarations among them define. The
tokens are taken one by one; a stage says which ones may come next. Declarations of elements and
of notations are checked for their form only.
-/

namespace PlatformGate.Markup

def isPublic (c : Char) : Bool :=
  c.isAlphanum || isAnyOf " \r\n-'()+,./:=?;!*#@$_%" c

def checkPublic (text : List Char) (next : Stage × Definitions) : Advance :=
  match text.dropWhile isPublic with
  | [] => .ok next
  | place => .error ⟨.invalidPublicId, some place⟩

def attributeTypes : List (String × Bool × Bool) :=
  [("CDATA", false, false), ("ID", true, true), ("IDREF", true, false), ("IDREFS", true, false),
    ("ENTITY", true, false), ("ENTITIES", true, false), ("NMTOKEN", true, false),
    ("NMTOKENS", true, false)]

/-- What the declarations in front of the root element depend on: the encoding of the document,
and when entities have added too much to it. -/
structure Outset where
  encoding : Encoding
  excessive : Nat → Bool

def defineEntity (outset : Outset) (definitions : Definitions) (entity : Option (List Char))
    (literal : List Char) : Except InnerFailure Definitions :=
  if definitions.suspended then .ok definitions
  else
    match entityText outset.encoding [] literal with
    | .error failure => .error failure
    | .ok text =>
      .ok (match entity with
        | some name => definitions.addEntity name (.internal text)
        | none => definitions)

def defineDefault (outset : Outset) (definitions : Definitions) (slot : Slot) (tokenized : Bool)
    (literal : List Char) : Except InnerFailure Definitions :=
  if definitions.suspended then .ok definitions
  else
    match attributeValue definitions outset.excessive tokenized definitions.entities
        outset.encoding literal definitions.spent with
    | .error failure => .error failure
    | .ok (value, spent) =>
      .ok ({ definitions with spent := spent }.addRule
        ⟨slot.element, slot.name, tokenized, some value⟩ false)

def afterGroup : List Connector → Stage
  | [] => .declarationEnd
  | groups => .memberMore groups

def connect (sign : Char) : List Connector → Option Stage
  | [] => none
  | group :: outer =>
    if group = none ∨ group = some sign then some (.member (some sign :: outer)) else none

namespace Stage

def advanceType (definitions : Definitions) (token : OuterToken) : Stage → Advance
  | outside typed =>
    match token with
    | .comment => .ok (outside typed, definitions)
    | .instruction => .ok (outside typed, definitions)
    | .opening word =>
      if word = "DOCTYPE".toList ∧ !typed then .ok (typeName, definitions) else token.refused
    | _ => token.refused
  | typeName =>
    match token.tagName? with
    | some _ => .ok (typeSource, definitions)
    | none => token.refused
  | typeSource =>
    if token = .sign '[' then .ok (subset, definitions)
    else if token = .sign '>' then .ok (outside true, definitions)
    else
      match token.keyword? with
      | some "SYSTEM" => .ok (typeSystem, definitions)
      | some "PUBLIC" => .ok (typePublic, definitions)
      | _ => token.refused
  | typePublic =>
    match token.literal? with
    | some text => checkPublic text (typeSystem, definitions.pointElsewhere)
    | none => token.refused
  | typeSystem =>
    match token.literal? with
    | some _ => .ok (typeBody, definitions.pointElsewhere)
    | none => token.refused
  | typeBody =>
    if token = .sign '[' then .ok (subset, definitions)
    else if token = .sign '>' then .ok (outside true, definitions)
    else token.refused
  | _ => if token = .sign '>' then .ok (outside true, definitions) else token.refused

def advanceSubset (definitions : Definitions) (token : OuterToken) : Advance :=
  match token with
  | .comment => .ok (subset, definitions)
  | .instruction => .ok (subset, definitions)
  | .parameterEntity => .ok (subset, definitions.suspend)
  | .sign ']' => .ok (typeEnd, definitions)
  | .opening word =>
    match String.ofList word with
    | "ENTITY" => .ok (entityName, definitions)
    | "ATTLIST" => .ok (listElement, definitions)
    | "ELEMENT" => .ok (elementName, definitions)
    | "NOTATION" => .ok (formatName, definitions)
    | _ => token.refused
  | _ => token.refused

def advanceEntity (outset : Outset) (definitions : Definitions) (token : OuterToken) :
    Stage → Advance
  | entityName =>
    if token = .percent then .ok (parameterName, definitions)
    else
      match token.plainName? with
      | some name => .ok (entityValue (some name), definitions)
      | none => token.refused
  | parameterName =>
    match token.plainName? with
    | some _ => .ok (entityValue none, definitions)
    | none => token.refused
  | entityValue entity =>
    match token.literal?, token.keyword? with
    | some text, _ =>
      (defineEntity outset definitions entity text).map fun made => (declarationEnd, made)
    | none, some "SYSTEM" => .ok (entitySystem entity, definitions)
    | none, some "PUBLIC" => .ok (entityPublic entity, definitions)
    | _, _ => token.refused
  | entityPublic entity =>
    match token.literal? with
    | some text => checkPublic text (entitySystem entity, definitions)
    | none => token.refused
  | entitySystem entity =>
    match token.literal? with
    | some _ => .ok (entityEnd entity, definitions)
    | none => token.refused
  | entityEnd none =>
    if token = .sign '>' then .ok (subset, definitions) else token.refused
  | entityEnd (some name) =>
    if token = .sign '>' then .ok (subset, definitions.addEntity name .external)
    else if token.keyword? = some "NDATA" then .ok (entityFormat name, definitions)
    else token.refused
  | entityFormat name =>
    match token.plainName? with
    | some _ => .ok (declarationEnd, definitions.addEntity name .binary)
    | none => token.refused
  | _ => token.refused

def advanceFormat (definitions : Definitions) (token : OuterToken) : Stage → Advance
  | formatName =>
    match token.plainName? with
    | some _ => .ok (formatSource, definitions)
    | none => token.refused
  | formatSource =>
    match token.keyword? with
    | some "SYSTEM" => .ok (formatSystem, definitions)
    | some "PUBLIC" => .ok (formatPublic, definitions)
    | _ => token.refused
  | formatPublic =>
    match token.literal? with
    | some text => checkPublic text (formatEnd, definitions)
    | none => token.refused
  | formatSystem =>
    match token.literal? with
    | some _ => .ok (declarationEnd, definitions)
    | none => token.refused
  | _ =>
    match token.literal? with
    | some _ => .ok (declarationEnd, definitions)
    | none => if token = .sign '>' then .ok (subset, definitions) else token.refused

def advanceList (outset : Outset) (definitions : Definitions) (token : OuterToken) :
    Stage → Advance
  | listElement =>
    match token.tagName? with
    | some element => .ok (listAttribute element, definitions)
    | none => token.refused
  | listAttribute element =>
    if token = .sign '>' then .ok (subset, definitions)
    else
      match token.tagName? with
      | some name => .ok (attributeType ⟨element, .ofWritten name⟩, definitions)
      | none => token.refused
  | attributeType slot =>
    if token = .sign '(' then .ok (choice slot false, definitions)
    else if token.keyword? = some "NOTATION" then .ok (formatChoice slot, definitions)
    else
      match token.keyword?.bind fun word => attributeTypes.lookup word with
      | some (tokenized, identifying) =>
        .ok (attributeDefault slot tokenized identifying, definitions)
      | none => token.refused
  | formatChoice slot =>
    if token = .sign '(' then .ok (choice slot true, definitions) else token.refused
  | choice slot formats =>
    match token with
    | .word kind _ =>
      if formats ∧ kind ≠ .plain then token.refused
      else .ok (choiceMore slot formats, definitions)
    | _ => token.refused
  | choiceMore slot formats =>
    if token = .sign '|' then .ok (choice slot formats, definitions)
    else if token = .groupEnd none then .ok (attributeDefault slot true false, definitions)
    else token.refused
  | attributeDefault slot tokenized identifying =>
    let absent : Advance := .ok (listAttribute slot.element,
      definitions.addRule ⟨slot.element, slot.name, tokenized, none⟩ identifying)
    match token with
    | .literal text =>
      (defineDefault outset definitions slot tokenized text).map fun made =>
        (listAttribute slot.element, made)
    | .keyword word =>
      match String.ofList word with
      | "IMPLIED" => absent
      | "REQUIRED" => absent
      | "FIXED" => .ok (fixedDefault slot tokenized, definitions)
      | _ => token.refused
    | _ => token.refused
  | fixedDefault slot tokenized =>
    match token.literal? with
    | some text =>
      (defineDefault outset definitions slot tokenized text).map fun made =>
        (listAttribute slot.element, made)
    | none => token.refused
  | _ => token.refused

def advanceElement (definitions : Definitions) (token : OuterToken) : Stage → Advance
  | elementName =>
    match token.tagName? with
    | some _ => .ok (elementContent, definitions)
    | none => token.refused
  | elementContent =>
    if token = .sign '(' then .ok (contentFirst, definitions)
    else if token.keyword? = some "EMPTY" ∨ token.keyword? = some "ANY" then
      .ok (declarationEnd, definitions)
    else token.refused
  | contentFirst =>
    if token = .keyword "PCDATA".toList then .ok (mixed, definitions)
    else if token = .sign '(' then .ok (member [none, none], definitions)
    else if token = .repeatable ∨ token.tagName?.isSome then .ok (memberMore [none], definitions)
    else token.refused
  | mixed =>
    match token with
    | .groupEnd none => .ok (declarationEnd, definitions)
    | .groupEnd (some '*') => .ok (declarationEnd, definitions)
    | .sign '|' => .ok (mixedName, definitions)
    | _ => token.refused
  | mixedName =>
    match token.tagName? with
    | some _ => .ok (mixedMore, definitions)
    | none => token.refused
  | mixedMore =>
    match token with
    | .groupEnd (some '*') => .ok (declarationEnd, definitions)
    | .sign '|' => .ok (mixedName, definitions)
    | _ => token.refused
  | member groups =>
    if token = .sign '(' then .ok (member (none :: groups), definitions)
    else if token = .repeatable ∨ token.tagName?.isSome then .ok (memberMore groups, definitions)
    else token.refused
  | memberMore groups =>
    match token with
    | .groupEnd _ => .ok (afterGroup groups.tail, definitions)
    | .sign c =>
      match if c = ',' ∨ c = '|' then connect c groups else none with
      | some next => .ok (next, definitions)
      | none => token.refused
    | _ => token.refused
  | _ => token.refused

def advance (outset : Outset) (definitions : Definitions) (token : OuterToken) (stage : Stage) :
    Advance :=
  if token = .space then .ok (stage, definitions)
  else
    match stage with
    | outside _ | typeName | typeSource | typePublic | typeSystem | typeBody | typeEnd =>
      advanceType definitions token stage
    | subset => advanceSubset definitions token
    | entityName | parameterName | entityValue _ | entityPublic _ | entitySystem _ | entityEnd _
    | entityFormat _ => advanceEntity outset definitions token stage
    | formatName | formatSource | formatPublic | formatSystem | formatEnd =>
      advanceFormat definitions token stage
    | listElement | listAttribute _ | attributeType _ | formatChoice _ | choice _ _
    | choiceMore _ _ | attributeDefault _ _ _ | fixedDefault _ _ =>
      advanceList outset definitions token stage
    | elementName | elementContent | contentFirst | mixed | mixedName | mixedMore | member _
    | memberMore _ => advanceElement definitions token stage
    | declarationEnd =>
      if token = .sign '>' then .ok (subset, definitions) else token.refused

end Stage

end PlatformGate.Markup
