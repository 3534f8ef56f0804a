import PlatformGate.Markup.Content
import PlatformGate.Markup.Opening
import PlatformGate.Markup.Prolog

/-!
Whole documents. The first bytes show an encoding; the declaration that a document may open with
can name another one, in which the rest of the bytes is read. Then come the prolog, the root
element, and what stands behind it.
-/

namespace PlatformGate.Markup

structure Document where
  bytes : List UInt8
  encoding : Encoding
  text : List Char
  deriving DecidableEq, Repr

inductive ReadError where
  | malformed (error : Error)
  | charset (fault : CharsetFault)
  deriving DecidableEq, Repr

/-- The encoding that the first bytes show, and whether they are a mark of the byte order. There
is none if all bytes are a part of something that would show one. -/
def detect? : List UInt8 → Option (Encoding × Bool)
  | [byte] => if [0x00, 0xEF, 0xFE, 0xFF].contains byte then none else some (.utf8, false)
  | [0xEF, 0xBB] => none
  | 0xEF :: 0xBB :: 0xBF :: _ => some (.utf8, true)
  | 0xFE :: 0xFF :: _ => some (.utf16 true, true)
  | 0xFF :: 0xFE :: _ => some (.utf16 false, true)
  | 0x00 :: _ => some (.utf16 true, false)
  | _ :: 0x00 :: _ => some (.utf16 false, false)
  | _ => some (.utf8, false)

def Encoding.ofName? (current : Encoding) (name : List Char) : Option Encoding :=
  match String.ofList (name.map Char.toUpper) with
  | "UTF-8" => some utf8
  | "UTF-16" => some (if current.unit = 2 then current else utf16 true)
  | "UTF-16BE" => some (utf16 true)
  | "UTF-16LE" => some (utf16 false)
  | "ISO-8859-1" => some latin1
  | "US-ASCII" => (asciiCharset.coverage.characters?).map charset
  | _ => none

/-- The encoding of the name, or what is wrong with it. The encodings of Unicode have to agree with
the one in force as to the units. -/
def Encoding.named (current : Encoding) (name : List Char) :
    Except CharsetFault (Except Fault Encoding) :=
  match current.ofName? name with
  | some encoding =>
    if encoding.unit ≠ current.unit ∨ encoding.unit = 2 ∧ encoding ≠ current then
      .ok (.error .incorrectEncoding)
    else .ok (.ok encoding)
  | none =>
    match Charset.characters name with
    | .error fault => .error fault
    | .ok (some characters) => .ok (.ok (charset characters))
    | .ok none => .ok (.error .unknownEncoding)

namespace Document

def ofBytes? (bytes : List UInt8) : Option (Document × List Char) :=
  (detect? bytes).map fun (encoding, marked) =>
    let text := encoding.decode bytes
    (⟨bytes, encoding, text⟩, if marked then text.drop 1 else text)

def source (document : Document) : Source :=
  ⟨document.encoding, document.bytes.length, document.bytes.length % document.encoding.unit ≠ 0⟩

def readOpening (document : Document) (text : List Char) :
    Except Failure (Opening × List Char) :=
  match readOuter document.encoding text with
  | .ok (.declaration body, rest) =>
    let closing := text.drop (text.length - rest.length - 2)
    match Opening.ofBody body with
    | .error place => .error ⟨.malformedDeclaration, place ++ closing⟩
    | .ok opening =>
      .ok ({ opening with encoding := opening.encoding.map fun (name, place) =>
        (name, place ++ closing) }, rest)
  | _ => .ok (.plain, text)

def recode (document : Document) (encoding : Encoding) (rest : List Char) :
    Document × List Char :=
  if encoding = document.encoding then (document, rest)
  else
    let text := encoding.decode document.bytes
    let done := document.text.take (document.text.length - rest.length)
    (⟨document.bytes, encoding, text⟩, text.drop (document.encoding.size done))

def readRoot (document : Document) (standalone : Bool) (rest : List Char) :
    Except Failure Element := do
  let source := document.source
  let (definitions, start) ← readProlog source (.outside false) (.initial standalone) rest
  let (progress, behind) ← readContent ⟨source, definitions⟩ definitions.entities none start
    ⟨[], none, definitions.spent⟩
  readEpilog source behind
  match progress.root with
  | some root => return root
  | none => .error ⟨.noElement, behind⟩

def locate {α : Type} (document : Document) (read : Except Failure α) : Except Error α :=
  match read with
  | .ok value => .ok value
  | .error failure => .error (Error.ofFailure document.text failure)

end Document

def parse (text : String) : Except Error Element :=
  match Document.ofBytes? text.toUTF8.toList with
  | none => .error ⟨.unclosedToken, 1, 0⟩
  | some (document, start) =>
    document.locate (do
      let (opening, rest) ← document.readOpening start
      document.readRoot opening.standalone rest)

def parseBytes (bytes : List UInt8) : Except ReadError Element :=
  match Document.ofBytes? bytes with
  | none => .error (.malformed ⟨.unclosedToken, 1, 0⟩)
  | some (document, start) =>
    match document.readOpening start with
    | .error failure => .error (.malformed (Error.ofFailure document.text failure))
    | .ok (opening, rest) =>
      let (name, place) := opening.encoding.getD ([], [])
      match if name = [] then .ok (.ok document.encoding) else document.encoding.named name with
      | .error fault => .error (.charset fault)
      | .ok (.error fault) => .error (.malformed (Error.ofFailure document.text ⟨fault, place⟩))
      | .ok (.ok encoding) =>
        let (document, rest) := document.recode encoding rest
        (document.locate (document.readRoot opening.standalone rest)).mapError .malformed

end PlatformGate.Markup
