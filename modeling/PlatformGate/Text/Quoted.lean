import PlatformGate.Text.Printable

/-!
Texts as error messages show them: between apostrophes, or between quotation marks where the text
holds an apostrophe and no quotation mark. The mark in use and the backslash are escaped, and what
cannot be shown is written by its code point in hexadecimal digits.
-/

namespace PlatformGate.Text

def apostrophe : Char := '\x27'

def quotationMark : Char := '\x22'

def quoteMark (text : List Char) : Char :=
  if text.contains apostrophe && !text.contains quotationMark then quotationMark else apostrophe

def hexadecimal (width point : Nat) : List Char :=
  let digits := Nat.toDigits 16 point
  List.replicate (width - digits.length) '0' ++ digits

/-- The shortest of the three forms that holds the code point. -/
def escapePoint (point : Nat) : List Char :=
  if point < 0x100 then '\\' :: 'x' :: hexadecimal 2 point
  else if point < 0x10000 then '\\' :: 'u' :: hexadecimal 4 point
  else '\\' :: 'U' :: hexadecimal 8 point

def quotedChar (mark c : Char) : List Char :=
  if c == mark || c == '\\' then ['\\', c]
  else if c == '\n' then ['\\', 'n']
  else if c == '\r' then ['\\', 'r']
  else if c == '\t' then ['\\', 't']
  else if isPrintable c then [c]
  else escapePoint c.toNat

def quoted (text : String) : String :=
  let mark := quoteMark text.toList
  String.ofList (mark :: text.toList.flatMap (quotedChar mark) ++ [mark])

end PlatformGate.Text
