import PlatformGate.Options.Clause
import PlatformGate.Proofs.Identifier
import PlatformGate.Proofs.Options.ReturnType

/-! The grammar of option text. A text is related to what it says by its derivations alone, without
a reader: clauses with groups are plain, while the arguments in a trait path are any text whose
brackets of one kind match. In the rules `W*` is white space of any length. -/

namespace PlatformGate.Options

open Text

def Applied (kind : BracketKind) (text : List Char) : Prop :=
  ∃ name w a, isName name = true ∧ AllBlank w ∧ kind.Encloses a ∧ text = name ++ (w ++ a)

def SegmentText (text : List Char) : Prop := isName text = true ∨ Applied .angle text

/-- The parts of a path, joined by `::`. The form of the function traits can only be the last. -/
inductive Segments : List Char → Prop
  | single {s : List Char} : SegmentText s → Segments s
  | call {s : List Char} : Applied .parenthesis s → Segments s
  | returning {s w w' r : List Char} : Applied .parenthesis s → AllBlank w → AllBlank w' →
      ResultText r → Segments (s ++ (w ++ '-' :: '>' :: (w' ++ r)))
  | joined {s w w' t : List Char} : SegmentText s → AllBlank w → AllBlank w' → Segments t →
      Segments (s ++ (w ++ ':' :: ':' :: (w' ++ t)))

inductive PathText : List Char → Prop
  | relative {s : List Char} : Segments s → PathText s
  | absolute {w s : List Char} : AllBlank w → Segments s → PathText (':' :: ':' :: (w ++ s))

variable {α : Type}

/-- `item (W* ',' W* item)* [W* ',']` -/
inductive Row (Item : List Char → α → Prop) : List Char → List α → Prop
  | one {s : List Char} {a : α} : Item s a → Row Item s [a]
  | ended {s w : List Char} {a : α} : Item s a → AllBlank w → Row Item (s ++ (w ++ [','])) [a]
  | cons {s w w' t : List Char} {a : α} {as : List α} : Item s a → AllBlank w → AllBlank w' →
      Row Item t as → Row Item (s ++ (w ++ ',' :: (w' ++ t))) (a :: as)

inductive Series (Item : List Char → α → Prop) : List Char → List α → Prop
  | empty {w : List Char} : AllBlank w → Series Item w []
  | row {w t w' : List Char} {as : List α} : AllBlank w → Row Item t as → AllBlank w' →
      Series Item (w ++ (t ++ w')) as

def GroupText (text : List Char) (group : Group) : Prop := text = group.keyword.toList

/-- A trait path, which stands for itself with each run of white space made one space. -/
def TraitText (text : List Char) (path : String) : Prop :=
  PathText text ∧ path = String.ofList (foldRuns false text)

/-- `keyword W* '(' inner ')'` -/
def listing (keyword : String) (w inner : List Char) : List Char :=
  keyword.toList ++ (w ++ '(' :: (inner ++ [')']))

/-- A clause. Only where traits are allowed may it be a list of traits. -/
inductive ClauseText (traitsAllowed : Bool) : List Char → Clause → Prop
  | includes {w inner : List Char} {groups : List Group} : AllBlank w →
      Series GroupText inner groups →
      ClauseText traitsAllowed (listing "include" w inner) (.includes groups)
  | excludes {w inner : List Char} {groups : List Group} : AllBlank w →
      Series GroupText inner groups →
      ClauseText traitsAllowed (listing "exclude" w inner) (.excludes groups)
  | traits {w inner : List Char} {paths : List String} : traitsAllowed = true → AllBlank w →
      Series TraitText inner paths → Separates inner ')' →
      ClauseText traitsAllowed (listing "traits" w inner) (.traits paths)

def BlockText (traitsAllowed : Bool) : List Char → List Clause → Prop :=
  Series (ClauseText traitsAllowed)

end PlatformGate.Options
