/-!
Columns of a report: padding to a width and digits in groups of three.
-/

namespace PlatformGate.Text

def spaces (n : Nat) : String := String.ofList (List.replicate n ' ')

def padRight (width : Nat) (text : String) : String := text ++ spaces (width - text.length)

def padLeft (width : Nat) (text : String) : String := spaces (width - text.length) ++ text

/-- Puts a comma after every third digit that another digit follows. -/
def groupThree : List Char → List Char
  | a :: b :: c :: d :: rest => a :: b :: c :: ',' :: groupThree (d :: rest)
  | rest => rest

def thousands (n : Int) : String :=
  let digits := String.ofList (groupThree (toString n.natAbs).toList.reverse).reverse
  if n < 0 then "-" ++ digits else digits

end PlatformGate.Text
