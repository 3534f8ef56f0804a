/-!
String literals of generated code. Only the backslash, the quotation mark and the line feed are
escaped; every other character stands for itself.
-/

namespace PlatformGate.Text

def literalChar (c : Char) : List Char :=
  if c = '\\' then ['\\', '\\']
  else if c = '\x22' then ['\\', '\x22']
  else if c = '\n' then ['\\', 'n']
  else [c]

def literal (text : String) : String :=
  String.ofList ('\x22' :: text.toList.flatMap literalChar ++ ['\x22'])

end PlatformGate.Text
