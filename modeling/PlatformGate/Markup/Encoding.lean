import PlatformGate.Markup.Character
import PlatformGate.Markup.Charset

/-!
The encodings of a document, and the text that its bytes make. What the bytes do not encode shows
in the text as a character that no document may hold, so it is found where it stands.
-/

namespace PlatformGate.Markup

inductive Encoding where
  | utf8
  | stored
  | utf16 (bigEndian : Bool)
  | latin1
  | charset (characters : List Char)
  deriving DecidableEq, Repr

def malformed : Char := '\uffff'

def cutOff : Char := '\ufffe'

namespace Encoding

def unit : Encoding → Nat
  | utf16 _ => 2
  | _ => 1

def isSingle (encoding : Encoding) (c : Char) : Bool :=
  match encoding with
  | utf8 => c.toNat < 0x80
  | stored => c.toNat < 0x80
  | utf16 _ => c.toNat < 0x100
  | latin1 => c.toNat < 0x100
  | charset _ => true

/-- Whether a carriage return is a line end. Where it is not, it is no more than white space. -/
def endsLines : Encoding → Bool
  | stored => false
  | _ => true

/-- The micro sign and the ordinal indicators, which pass for letters where they are single units of
an encoding of Unicode. -/
def hasOrdinals : Encoding → Bool
  | utf16 _ => true
  | latin1 => true
  | _ => false

def isOrdinal (c : Char) : Bool := c == '\u00aa' || c == '\u00b5' || c == '\u00ba'

def isNameStart (encoding : Encoding) (c : Char) : Bool :=
  Markup.isNameStart c || (encoding.hasOrdinals && isOrdinal c)

def isNamePart (encoding : Encoding) (c : Char) : Bool :=
  Markup.isNamePart c || (encoding.hasOrdinals && isOrdinal c)

def width (encoding : Encoding) (c : Char) : Nat :=
  match encoding with
  | utf8 => if c = malformed ∨ c = cutOff then 1 else c.utf8Size
  | stored => c.utf8Size
  | utf16 _ => if c.toNat < 0x10000 then 2 else 4
  | _ => 1

def size (encoding : Encoding) (text : List Char) : Nat :=
  text.foldl (fun total c => total + encoding.width c) 0

end Encoding

def scalar? (number : Nat) : Option Char :=
  let c := Char.ofNat number
  if c.toNat = number ∧ number ≠ 0xFFFE ∧ number ≠ 0xFFFF then some c else none

def isContinuation (byte : UInt8) : Bool := 0x80 ≤ byte && byte < 0xC0

def payload (byte : UInt8) : Nat := byte.toNat % 0x40

def scalarOfBytes? : List UInt8 → Option Char
  | [a, b] =>
    let number := a.toNat % 0x20 * 0x40 + payload b
    if isContinuation b ∧ 0x80 ≤ number then scalar? number else none
  | [a, b, c] =>
    let number := a.toNat % 0x10 * 0x1000 + payload b * 0x40 + payload c
    if isContinuation b ∧ isContinuation c ∧ 0x800 ≤ number then scalar? number else none
  | [a, b, c, d] =>
    let number := a.toNat % 0x08 * 0x40000 + payload b * 0x1000 + payload c * 0x40 + payload d
    if isContinuation b ∧ isContinuation c ∧ isContinuation d ∧ 0x10000 ≤ number then
      scalar? number
    else none
  | _ => none

def announced? (first : UInt8) : Option Nat :=
  if first < 0xC0 then none
  else if first < 0xE0 then some 1
  else if first < 0xF0 then some 2
  else if first < 0xF5 then some 3
  else none

/-- Decodes behind the characters `before`, which are in reverse order. Bytes that the end of the
document cuts off are told from wrong ones by their number alone. -/
def decodeUtf8 (before : List Char) : List UInt8 → List Char
  | [] => before.reverse
  | first :: rest =>
    if first < 0x80 then decodeUtf8 (Char.ofNat first.toNat :: before) rest
    else
      match announced? first with
      | none => decodeUtf8 (unassigned :: before) rest
      | some more =>
        let behind := rest.take more
        if behind.length < more then (List.replicate (behind.length + 1) cutOff ++ before).reverse
        else
          match scalarOfBytes? (first :: behind) with
          | some c => decodeUtf8 (c :: before) (rest.drop more)
          | none => decodeUtf8 (malformed :: before) rest
termination_by bytes => bytes.length
decreasing_by
  · simp
  · simp
  · rw [List.length_drop, List.length_cons]
    omega
  · simp

/-- Decodes units of two bytes behind the characters `before`, which are in reverse order. A unit
that opens a pair is paired with whatever unit is behind it. A byte that is left over at the end
has no part in the text. -/
def decodeUnits (bigEndian : Bool) (before : List Char) : List UInt8 → List Char
  | a :: b :: rest =>
    let unit := fun (first second : UInt8) =>
      if bigEndian then first.toNat * 0x100 + second.toNat else second.toNat * 0x100 + first.toNat
    let high := unit a b
    if 0xD800 ≤ high ∧ high < 0xDC00 then
      match rest with
      | c :: d :: rest =>
        let number := 0x10000 + high % 0x400 * 0x400 + unit c d % 0x400
        decodeUnits bigEndian (Char.ofNat number :: before) rest
      | _ => (cutOff :: before).reverse
    else decodeUnits bigEndian ((scalar? high).getD unassigned :: before) rest
  | _ => before.reverse

def Encoding.decode (bytes : List UInt8) : Encoding → List Char
  | utf8 => decodeUtf8 [] bytes
  | stored => decodeUtf8 [] bytes
  | utf16 bigEndian => decodeUnits bigEndian [] bytes
  | latin1 => bytes.map fun byte => Char.ofNat byte.toNat
  | charset characters =>
    let table := characters.toArray
    bytes.map fun byte => table.getD byte.toNat unassigned

end PlatformGate.Markup
