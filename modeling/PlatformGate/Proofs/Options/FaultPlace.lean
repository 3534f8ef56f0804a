import PlatformGate.Proofs.Location
import PlatformGate.Proofs.Options.Cursor
import PlatformGate.Proofs.Options.Refusal

/-! The place of a fault. Only a location is reported, and it is enough: it is the location of a
single place in the text, with everything in front of it counted. -/

namespace PlatformGate.Options

theorem Cursor.Advances.tells {cursor : Cursor} {answer : Except Diagnostic Value × Cursor}
    {diagnostic : Diagnostic} (advances : cursor.Advances answer)
    (failed : answer.1 = .error diagnostic) :
    ∃ index, cursor.position ≤ index ∧ index ≤ answer.2.position ∧
      diagnostic.location.Tells cursor.location cursor.text index := by
  obtain ⟨index, low, high, place⟩ := advances.placed diagnostic failed
  exact ⟨index, low, high, place ▸ cursor.location.tells_advance cursor.text index⟩

theorem tells_of_parse {text : String} {allowed : Bool} {location : Location}
    {diagnostic : Diagnostic}
    (refused : OptionBlock.parse text allowed location = .error diagnostic) :
    ∃ front fault place rest, text.toList = front ++ place ∧
      readClauses allowed text.toList = .failed fault place rest ∧
      diagnostic.location.Tells location text.toList front.length := by
  obtain ⟨fault, place, rest, failed, rfl⟩ := OptionBlock.parse_eq_error.mp refused
  have read := (unrolls_readClauses allowed).within text.toList
  rw [failed] at read
  cases read with
  | failed inside =>
    obtain ⟨front, split⟩ := inside
    refine ⟨front, fault, place, rest, split.symm, failed, ?_⟩
    have before : text.toList.length - place.length = front.length := by
      rw [← split, List.length_append, Nat.add_sub_cancel]
    rw [before]
    exact location.tells_advance text.toList front.length

/-- A location counts one character after the other, in parts as well as at once, and grows with
each of them. So the location of a fault, of a single operation or of a whole text, is that of one
place in the text only. -/
theorem location_tells_place :
    (∀ (start : Location) (text : List Char),
      (∀ index ≤ text.length,
        start.advance text index = (text.take index).foldl Location.behind start) ∧
      (∀ i j, (start.advance text i).advance (text.drop i) j = start.advance text (i + j)) ∧
      StrictMono (start.advance text)) ∧
    (∀ (cursor : Cursor) (operation : Operation) (diagnostic : Diagnostic),
      cursor.IsWithin → ¬operation.seeks → (cursor.step operation).1 = .error diagnostic →
      ∃ index, cursor.position ≤ index ∧ index ≤ (cursor.step operation).2.position ∧
        diagnostic.location.Tells cursor.location cursor.text index) ∧
    ∀ (text : String) (allowed : Bool) (location : Location) (diagnostic : Diagnostic),
      OptionBlock.parse text allowed location = .error diagnostic →
      ∃ front fault place rest, text.toList = front ++ place ∧
        readClauses allowed text.toList = .failed fault place rest ∧
        diagnostic.location.Tells location text.toList front.length := by
  refine ⟨fun start text => ⟨fun index within => start.advance_eq_foldl within,
    start.advance_advance text, start.advance_strictMono text⟩,
    fun cursor operation diagnostic within forward failed => ?_,
    fun text allowed location diagnostic refused => tells_of_parse refused⟩
  exact (Cursor.advances_step within forward).tells failed

theorem location_tells_place_of_second_line :
    let text := "include(linux,\n macox)".toList
    let cursor : Cursor := ⟨text, ⟨3, 9⟩, 14⟩
    let diagnostic : Diagnostic :=
      ⟨"expected one of: `all`, `posix`, `linux`, `macos`, `windows`", ⟨4, 1⟩⟩
    Location.mk 4 0 = (text.take 15).foldl Location.behind ⟨3, 9⟩ ∧
    Location.mk 3 23 < Location.mk 4 0 ∧
    (cursor.step .group).1 = .error diagnostic ∧
    (∃ index, 14 ≤ index ∧ index ≤ 16 ∧ diagnostic.location.Tells ⟨3, 9⟩ text index) ∧
    OptionBlock.parse "include(linux,\n macox)" false ⟨3, 9⟩ = .error diagnostic ∧
    diagnostic.location.Tells ⟨3, 9⟩ text 16 := by
  intro text cursor diagnostic
  obtain ⟨counted, located, told⟩ := location_tells_place
  obtain ⟨count, -, grows⟩ := counted ⟨3, 9⟩ text
  have lineEnd : (Location.mk 3 9).advance text 14 = ⟨3, 23⟩ := by decide +kernel
  have lineStart : (Location.mk 3 9).advance text 15 = ⟨4, 0⟩ := by decide +kernel
  have later : Location.mk 3 23 < Location.mk 4 0 := by
    rw [← lineEnd, ← lineStart]
    exact grows (by decide)
  have step : cursor.step .group = (.error diagnostic, ⟨text, ⟨3, 9⟩, 16⟩) := by decide +kernel
  have error : (cursor.step .group).1 = .error diagnostic := by rw [step]
  have within : cursor.IsWithin := Nat.le_of_ble_eq_true (by decide +kernel)
  obtain ⟨index, low, high, here⟩ := located cursor .group diagnostic within (by decide) error
  rw [step] at high
  have refused : OptionBlock.parse "include(linux,\n macox)" false ⟨3, 9⟩ = .error diagnostic :=
    OptionBlock.parse_eq_error.mpr
      ⟨.group, "macox)".toList, "macox)".toList, by decide +kernel, by decide +kernel⟩
  obtain ⟨front, -, -, -, -, -, tells⟩ := told _ false ⟨3, 9⟩ diagnostic refused
  have position : 16 = front.length := (tells 16).mp (by decide +kernel)
  exact ⟨lineStart ▸ count 15 (by decide +kernel), later, error, ⟨index, low, high, here⟩, refused,
    position ▸ tells⟩

end PlatformGate.Options
