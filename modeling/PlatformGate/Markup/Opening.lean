import PlatformGate.Markup.Character

/-!
The declaration that a document may open with: a version, then an encoding and the word on
standalone use, either of which may be left out.
-/

namespace PlatformGate.Markup

structure Setting where
  name : List Char
  namePlace : List Char
  value : List Char
  valuePlace : List Char
  deriving DecidableEq, Repr

def isSettingChar (c : Char) : Bool := c.isAlphanum || c == '.' || c == '-' || c == '_'

def isSettingName (c : Char) : Bool := c != '=' && !isSpace c && c.toNat < 0x80

def readSetting : List Char → Except (List Char) (Option Setting × List Char)
  | [] => .ok (none, [])
  | c :: rest =>
    if !isSpace c then .error (c :: rest)
    else
      let start := skipSpace rest
      let name := start.takeWhile isSettingName
      if start.isEmpty then .ok (none, [])
      else
        match skipSpace (start.drop name.length) with
        | '=' :: behind =>
          if name.isEmpty then .error start
          else
            match skipSpace behind with
            | [] => .error []
            | mark :: inner =>
              let value := inner.takeWhile isSettingChar
              if mark = '\x22' ∨ mark = '\x27' then
                match inner.drop value.length with
                | [] => .error []
                | close :: more =>
                  if close = mark then .ok (some ⟨name, start, value, inner⟩, more)
                  else .error (close :: more)
              else .error (mark :: inner)
        | other => .error other

/-- What the declaration says of the document. The encoding is named with its place. -/
structure Opening where
  encoding : Option (List Char × List Char)
  standalone : Bool
  deriving DecidableEq, Repr

namespace Opening

def plain : Opening := ⟨none, false⟩

def addStandalone (opening : Opening) (setting : Setting) (rest : List Char) :
    Except (List Char) Opening :=
  if setting.name ≠ "standalone".toList then .error setting.namePlace
  else if setting.value ≠ "yes".toList ∧ setting.value ≠ "no".toList then
    .error setting.valuePlace
  else if (skipSpace rest).isEmpty then
    .ok { opening with standalone := setting.value = "yes".toList }
  else .error (skipSpace rest)

def addSettings (opening : Opening) (setting : Setting) (rest : List Char) :
    Except (List Char) Opening := do
  if setting.name = "encoding".toList then
    if setting.value.head?.any Char.isAlpha then
      let opening := { opening with encoding := some (setting.value, setting.valuePlace) }
      match ← readSetting rest with
      | (some last, behind) => opening.addStandalone last behind
      | (none, _) => return opening
    else .error setting.valuePlace
  else opening.addStandalone setting rest

def ofBody (body : List Char) : Except (List Char) Opening := do
  match ← readSetting body with
  | (none, _) => .error body
  | (some version, rest) =>
    if version.name ≠ "version".toList then .error version.namePlace
    else
      match ← readSetting rest with
      | (none, _) => return plain
      | (some setting, behind) => plain.addSettings setting behind

end Opening

end PlatformGate.Markup
