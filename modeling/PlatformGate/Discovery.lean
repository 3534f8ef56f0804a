import PlatformGate.OptionBlock
import PlatformGate.Text.Column
import PlatformGate.Text.Lines

/-!
Reports that need no manifest: the table of platform groups, and what an option text resolves to.
-/

namespace PlatformGate.Discovery

open Text

def expansion (group : Group) : String := ", ".intercalate (group.platforms.map Platform.name)

def suffixNote (group : Group) : String :=
  match group.platforms with
  | [platform] => " alias suffix: " ++ platform.aliasSuffix
  | _ => ""

def groupRow (group : Group) : String :=
  let row := "  " ++ padRight 10 group.keyword ++ " " ++ padRight 24 (expansion group) ++
    suffixNote group
  String.ofList (dropEndWhile isBlank row.toList)

def platformTable : String :=
  endLines (["Platform groups:", ""] ++ Group.table.map groupRow)

def resolutionReport (optionsText : String) (resolution : Resolution) : String :=
  let options := trim optionsText
  let platforms := ", ".intercalate (resolution.platforms.map Platform.name)
  endLines
    (["Options:   " ++ (if options = "" then "(defaults)" else options),
      "Platforms: " ++ (if platforms = "" then "(none)" else platforms),
      "Guard:     " ++ renderCfg resolution.guard] ++
      (resolution.diagnostic.map fun d => "Error:     " ++ d.message).toList)

end PlatformGate.Discovery
