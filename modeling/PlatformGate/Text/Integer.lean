import PlatformGate.Text.Blank
import PlatformGate.Text.Digit

/-!
Integers as attribute values write them: white space around, an optional sign, decimal digits of
any script with single underscores between them. The information separators do not count as white
space here, and a number has at most `maxDigits` digits, leading zeros included. No number with
more digits is written either.
-/

namespace PlatformGate.Text

def maxDigits : Nat := 4300

def isNumberBlank (c : Char) : Bool := isBlank c && !(28 ≤ c.toNat && c.toNat ≤ 31)

def isWritable (n : Int) : Bool := (Nat.toDigits 10 n.natAbs).length ≤ maxDigits

/-- The values of the digits, if the text is digits with single underscores between them. -/
def digitValues? : List Char → Option (List Nat)
  | [] => none
  | c :: rest =>
    match digitValue? c, rest with
    | none, _ => none
    | some d, [] => some [d]
    | some d, '_' :: more => (digitValues? more).map (d :: ·)
    | some d, next :: more => (digitValues? (next :: more)).map (d :: ·)

def natural? (text : List Char) : Option Nat :=
  match digitValues? text with
  | none => none
  | some values =>
    if values.length ≤ maxDigits then some (values.foldl (fun n d => 10 * n + d) 0) else none

def integer? (text : String) : Option Int :=
  match dropEndWhile isNumberBlank (text.toList.dropWhile isNumberBlank) with
  | '-' :: digits => (natural? digits).map fun n => -(n : Int)
  | '+' :: digits => (natural? digits).map fun n => (n : Int)
  | digits => (natural? digits).map fun n => (n : Int)

end PlatformGate.Text
