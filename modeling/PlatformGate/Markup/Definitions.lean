import PlatformGate.Markup.Token

/-!
What the declarations of a document type define: entities, and attributes that an element has
without its tag saying so. The first definition of a thing is the one that counts. A document may
point to declarations elsewhere; these are not read, so what is not defined here may be defined
there.
-/

namespace PlatformGate.Markup

inductive Entity where
  | internal (text : List Char)
  | external
  | binary
  deriving DecidableEq, Repr

abbrev EntityTable := List (List Char × Entity)

structure AttributeRule where
  element : List Char
  name : TagName
  tokenized : Bool
  value : Option (List Char)
  deriving DecidableEq, Repr

/-- `incomplete` says that there are declarations elsewhere, and `suspended` that, behind such as
were not read, no others count any more. The bytes that entities have added are `spent`. -/
structure Definitions where
  entities : EntityTable
  rules : List AttributeRule
  incomplete : Bool
  standalone : Bool
  suspended : Bool
  spent : Nat
  deriving DecidableEq, Repr

def predefinedEntities : List (List Char × Char) :=
  [("lt".toList, '<'), ("gt".toList, '>'), ("amp".toList, '&'), ("quot".toList, '\x22'),
    ("apos".toList, '\x27')]

def EntityTable.find? (table : EntityTable) (name : List Char) : Option (List Char × Entity) :=
  List.find? (fun entry => entry.1 == name) table

def EntityTable.without (table : EntityTable) (name : List Char) : EntityTable :=
  List.eraseP (fun entry => entry.1 == name) table

namespace Definitions

def initial (standalone : Bool) : Definitions := ⟨[], [], false, standalone, false, 0⟩

def addEntity (definitions : Definitions) (name : List Char) (entity : Entity) : Definitions :=
  if definitions.suspended ∨ (predefinedEntities.lookup name).isSome ∨
      (definitions.entities.find? name).isSome then definitions
  else { definitions with entities := definitions.entities ++ [(name, entity)] }

def rulesOf (definitions : Definitions) (element : List Char) : List AttributeRule :=
  definitions.rules.filter (·.element == element)

/-- Adds a rule. One that has a value or makes the attribute an identifier counts only as the
first rule of its attribute. -/
def addRule (definitions : Definitions) (rule : AttributeRule) (identifying : Bool) :
    Definitions :=
  let earlier := (definitions.rulesOf rule.element).any (·.name == rule.name)
  if definitions.suspended ∨ (rule.value.isSome ∨ identifying) ∧ earlier then definitions
  else { definitions with rules := definitions.rules ++ [rule] }

def pointElsewhere (definitions : Definitions) : Definitions :=
  { definitions with incomplete := true }

def suspend (definitions : Definitions) : Definitions :=
  { definitions with incomplete := true, suspended := !definitions.standalone }

def isBinding (definitions : Definitions) : Bool :=
  !definitions.incomplete || definitions.standalone

def lookUp (definitions : Definitions) (available : EntityTable) (name : List Char) :
    Except Fault (Option Entity) :=
  match available.find? name with
  | some entry => .ok (some entry.2)
  | none =>
    if (definitions.entities.find? name).isSome then .error .recursiveEntity
    else if definitions.isBinding then .error .undefinedEntity
    else .ok none

def isTokenized (definitions : Definitions) (element : List Char) (name : TagName) : Bool :=
  match (definitions.rulesOf element).find? (·.name == name) with
  | some rule => rule.tokenized
  | none => false

end Definitions

def Entity.length : Entity → Nat
  | internal text => text.length
  | _ => 0

/-- A bound on the characters that replacing entities of the table can still add, each of them once
and with one more for its reference. -/
def EntityTable.weight : EntityTable → Nat
  | [] => 0
  | entry :: table => entry.2.length + 1 + EntityTable.weight table

theorem EntityTable.without_weight {table : EntityTable} {name : List Char}
    {entry : List Char × Entity} (h : table.find? name = some entry) :
    (table.without name).weight + entry.2.length < table.weight := by
  unfold EntityTable.find? at h
  unfold EntityTable.without
  induction table with
  | nil => cases h
  | cons first table ih =>
    by_cases same : (first.1 == name) = true
    · simp only [List.find?_cons, same, Option.some.injEq] at h
      simp only [List.eraseP_cons, same, cond_true, EntityTable.weight, ← h]
      omega
    · simp only [List.find?_cons, same] at h
      have := ih h
      simp only [List.eraseP_cons, same, cond_false, EntityTable.weight]
      omega

theorem Definitions.lookUp_weight {definitions : Definitions} {available : EntityTable}
    {name : List Char} {entity : Entity}
    (h : definitions.lookUp available name = .ok (some entity)) :
    (available.without name).weight + entity.length < available.weight := by
  unfold lookUp at h
  split at h
  next found =>
    cases h
    exact EntityTable.without_weight found
  next =>
    split at h
    · cases h
    · split at h <;> cases h

structure Source where
  encoding : Encoding
  size : Nat
  ragged : Bool
  deriving DecidableEq, Repr

namespace Source

def harmless : Nat := 0x800000

def factor : Nat := 100

/-- Whether entities have added too much to the part of the document in front of `behind`. That
part is measured only if they have added nearly as much as they may at all. -/
def isExceeded (source : Source) (behind : List Char) (spent : Nat) : Bool :=
  harmless * (factor - 1) ≤ spent * factor &&
    let read := source.size - source.encoding.size behind
    harmless ≤ read + spent && factor * read < read + spent

def endFault (source : Source) : Fault := if source.ragged then .unclosedToken else .noElement

end Source

end PlatformGate.Markup
