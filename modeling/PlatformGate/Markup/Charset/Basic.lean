/-!
Character sets that a document may name beside the encodings of Unicode: what each makes of a
byte, or why it cannot be read byte by byte.
-/

namespace PlatformGate.Markup

inductive Coverage where
  | ascii (except : List Char)
  | latin
  /-- The bytes below `first` are the characters of their own numbers, the others those of the
  page in order. -/
  | page (first : Nat) (characters : String)
  /-- Markup is not written as in ASCII. -/
  | unsuited
  | multiByte
  | textless
  | unforgiving
  | asciiOnly
  | undefined
  deriving DecidableEq, Repr

structure Charset where
  names : List String
  aliases : List String
  coverage : Coverage
  deriving DecidableEq, Repr

inductive CharsetFault where
  | unknown (name : String)
  | textless (name : String)
  | multiByte
  | unforgiving (name : String)
  | asciiOnly
  | undefined (name : String)
  deriving DecidableEq, Repr

namespace CharsetFault

def failedDecoding (name reason : String) : String :=
  "decoding with '" ++ name ++ "' codec failed (UnicodeError: " ++ reason ++ ")"

def message : CharsetFault → String
  | unknown name => "unknown encoding: " ++ name
  | textless name =>
    "'" ++ String.ofList (name.toList.take 400) ++
      "' is not a text encoding; use codecs.decode() to handle arbitrary codecs"
  | multiByte => "multi-byte encodings are not supported"
  | unforgiving name => failedDecoding name "Unsupported error handling replace"
  | asciiOnly => "'ascii' codec can't decode byte 0x80 in position 82: ordinal not in range(128)"
  | undefined name => failedDecoding name "undefined encoding"

end CharsetFault

end PlatformGate.Markup
