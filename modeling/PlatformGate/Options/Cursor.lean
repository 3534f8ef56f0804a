import PlatformGate.Location
import PlatformGate.Options.Clause

/-!
A cursor in option text: the readers as operations that move a position forward. An operation
answers with a value or with a located diagnostic, and in both cases the cursor goes on from where
reading stopped. A position beyond the end of the text is allowed and has nothing behind it.
-/

namespace PlatformGate.Options

open Text

structure Cursor where
  text : List Char
  location : Location
  position : Nat
  deriving DecidableEq, Repr

inductive Operation where
  | seek (position : Nat)
  | skipBlank
  | atEnd
  | peek (token : String)
  | expect (token : String)
  | peekName
  | takeName (what : String)
  | skipAngles
  | skipParentheses
  | skipReturnType
  | group
  | traitPath
  | groupList
  | traitList
  deriving DecidableEq, Repr

inductive Value where
  | nothing
  | truth (value : Bool)
  | name (value : Option String)
  | word (value : String)
  | words (values : List String)
  deriving DecidableEq, Repr

namespace Cursor

def start (text : String) (location : Location) : Cursor := ⟨text.toList, location, 0⟩

def rest (cursor : Cursor) : List Char := cursor.text.drop cursor.position

/-- The character in front of the position. In front of the first character stands the last. -/
def previous (cursor : Cursor) : Option Char :=
  if cursor.position = 0 then cursor.text.getLast? else cursor.text[cursor.position - 1]?

def isBeyond (cursor : Cursor) : Bool := cursor.text.length < cursor.position

def positionOf (cursor : Cursor) (ending : List Char) : Nat :=
  cursor.position + (cursor.rest.length - ending.length)

def moveTo (cursor : Cursor) (ending : List Char) : Cursor :=
  { cursor with position := cursor.positionOf ending }

def answer {α : Type} (cursor : Cursor) (value : α → Value) :
    Outcome α → Except Diagnostic Value × Cursor
  | .done a ending => (.ok (value a), cursor.moveTo ending)
  | .failed fault place ending =>
    (.error ⟨fault.message, cursor.location.advance cursor.text (cursor.positionOf place)⟩,
      cursor.moveTo ending)

/-- A bracket that is not closed is reported where it opens, and everything has been read. -/
def closing (cursor : Cursor) (fault : Fault) : Option (List Char) → Outcome Unit
  | some behind => .done () behind
  | none => .failed fault cursor.rest []

def expectToken (cursor : Cursor) (token : List Char) : Outcome Unit :=
  if cursor.isBeyond then .failed (.token token none) [] [] else Options.expect token cursor.rest

def step (cursor : Cursor) : Operation → Except Diagnostic Value × Cursor
  | .seek position => (.ok .nothing, { cursor with position })
  | .skipBlank => (.ok .nothing, cursor.moveTo (Text.skipBlank cursor.rest))
  | .atEnd =>
    let ending := Text.skipBlank cursor.rest
    (.ok (.truth ending.isEmpty), cursor.moveTo ending)
  | .peek token =>
    (.ok (.truth (!cursor.isBeyond && follows token.toList cursor.rest)),
      cursor.moveTo (Text.skipBlank cursor.rest))
  | .expect token => cursor.answer (fun _ => .nothing) (cursor.expectToken token.toList)
  | .peekName =>
    (.ok (.name ((nameAhead? cursor.rest).map String.ofList)),
      cursor.moveTo (Text.skipBlank cursor.rest))
  | .takeName what =>
    cursor.answer (fun name => .word (String.ofList name)) (Options.takeName what cursor.rest)
  | .skipAngles =>
    cursor.answer (fun _ => .nothing)
      (cursor.closing .unclosedAngle (Options.skipAngles cursor.previous 0 cursor.rest))
  | .skipParentheses =>
    cursor.answer (fun _ => .nothing)
      (cursor.closing .unclosedParenthesis (Options.skipParentheses 0 cursor.rest))
  | .skipReturnType =>
    cursor.answer (fun _ => .nothing) (Options.skipReturnType cursor.previous cursor.rest)
  | .group => cursor.answer (fun group => .word group.keyword) (readGroup cursor.rest)
  | .traitPath => cursor.answer .word (Options.traitPath cursor.rest)
  | .groupList =>
    cursor.answer (fun groups => .words (groups.map Group.keyword))
      (readList groupReader cursor.rest)
  | .traitList => cursor.answer .words (readList traitReader cursor.rest)

def run (cursor : Cursor) : List Operation → List (Except Diagnostic Value × Nat)
  | [] => []
  | operation :: later =>
    let (value, next) := cursor.step operation
    (value, next.position) :: next.run later

end Cursor

end PlatformGate.Options
