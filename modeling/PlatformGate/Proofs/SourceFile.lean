import Mathlib.Data.List.Flatten
import PlatformGate.Proofs.Text.Literal
import PlatformGate.SourceFile

/-! The section of an entry in the generated file: the compiler errors for its diagnostics, one line
each and in their order, and then its items. -/

namespace PlatformGate

namespace Diagnostic

open Text

theorem compileError_eq (diagnostic : Diagnostic) :
    diagnostic.compileError = "compile_error!(" ++ literal diagnostic.message ++ ");" := rfl

theorem toList_compileError (diagnostic : Diagnostic) :
    diagnostic.compileError.toList =
      "compile_error!(".toList ++ ((literal diagnostic.message).toList ++ ");".toList) := by
  rw [compileError_eq, String.toList_append, String.toList_append, List.append_assoc]

theorem lineFeed_not_mem_compileError (diagnostic : Diagnostic) :
    '\n' ∉ diagnostic.compileError.toList := by
  rw [toList_compileError, toList_literal diagnostic.message]
  have inner := lineFeed_not_mem_escaped diagnostic.message.toList
  simp [inner]

theorem compileError_inj {diagnostic other : Diagnostic} :
    diagnostic.compileError = other.compileError ↔ diagnostic.message = other.message := by
  rw [compileError_eq, compileError_eq]
  refine ⟨fun same => ?_, fun same => by rw [same]⟩
  exact literal_injective ((String.append_right_inj _).mp ((String.append_left_inj _).mp same))

/-- The literal of a text is read to its end however the text looks, on one line, and stands for the
text alone. So the compiler gets the whole message of a diagnostic, and another one from another
message. -/
theorem message_read_back :
    (∀ text : String,
      (literal text).toList = '\x22' :: (escaped text.toList ++ ['\x22']) ∧
      escaped text.toList = replace '\n' ['\\', 'n'] (replace '\x22' ['\\', '\x22']
        (replace '\\' ['\\', '\\'] text.toList)) ∧
      '\n' ∉ escaped text.toList ∧
      (∀ rest, readLiteral? ((literal text).toList ++ rest) = some (escaped text.toList, rest)) ∧
      unescape? (escaped text.toList) = some text.toList) ∧
    ∀ diagnostic : Diagnostic,
      (∃ behind, diagnostic.compileError.toList = "compile_error!(".toList ++ behind ∧
        readLiteral? behind = some (escaped diagnostic.message.toList, ");".toList)) ∧
      ∀ other : Diagnostic,
        diagnostic.compileError = other.compileError ↔ diagnostic.message = other.message := by
  refine ⟨fun text => ⟨toList_literal text, escaped_eq_replace text.toList,
    lineFeed_not_mem_escaped text.toList, readLiteral?_literal text, unescape?_escaped text.toList⟩,
    fun diagnostic => ⟨⟨_, toList_compileError diagnostic, ?_⟩, fun other => compileError_inj⟩⟩
  exact readLiteral?_literal diagnostic.message ");".toList

end Diagnostic

namespace EntryOutput

def diagnosticLines (output : EntryOutput) : List String :=
  output.diagnostics.map (·.compileError)

def itemLines (opens : Bool) : List Item → List String
  | [] => []
  | item :: items => (if opens then item.lines else "" :: item.lines) ++ itemLines false items

theorem intercalate_cons_map_lines (first : List String) (items : List Item) :
    [""].intercalate (first :: items.map Item.lines) = first ++ itemLines false items := by
  induction items generalizing first with
  | nil => simp [itemLines]
  | cons item items ih =>
    rw [List.map_cons, List.intercalate_cons_cons, ih, itemLines]
    simp

theorem lines_eq (output : EntryOutput) :
    output.lines =
      output.diagnosticLines ++ itemLines output.diagnostics.isEmpty output.items := by
  unfold lines blocks
  by_cases clean : output.diagnostics.isEmpty = true
  · have none : output.diagnosticLines = [] := by
      simpa [diagnosticLines] using clean
    rw [if_pos clean, none, clean, List.nil_append, List.nil_append]
    cases output.items with
    | nil => rfl
    | cons item items => exact intercalate_cons_map_lines item.lines items
  · rw [if_neg clean, Bool.eq_false_iff.mpr clean, List.singleton_append,
      intercalate_cons_map_lines]
    rfl

/-- What an output adds to the file: the compiler errors for its diagnostics behind a blank line,
and the items behind them. -/
def addedLines (output : EntryOutput) : List String :=
  "" :: (output.diagnostics.map (·.compileError) ++
    itemLines output.diagnostics.isEmpty output.items)

theorem compileErrors_sublist (outputs : List EntryOutput) :
    ((outputs.flatMap (·.diagnostics)).map (·.compileError)).Sublist
      (outputs.flatMap (·.addedLines)) := by
  rw [List.map_flatMap]
  exact List.Sublist.flatMap_right outputs fun output _ =>
    (List.sublist_append_left ..).trans (List.sublist_cons_self ..)

end EntryOutput

namespace SourceFile

theorem assemble_of_label {label : String} (named : label ≠ "") (outputs : List EntryOutput) :
    assemble label outputs =
      .ok (Text.endLines (headerLines label outputs.length ++ outputs.flatMap sectionLines)) := by
  rw [assemble, header, if_neg named]

end SourceFile

end PlatformGate
