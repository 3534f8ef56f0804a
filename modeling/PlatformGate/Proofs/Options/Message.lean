import PlatformGate.Proofs.Options.Turn
import PlatformGate.Proofs.Text.Literal

/-! Messages about option texts. Of the text itself a message quotes at most the character at which
reading stopped. White space has been skipped there, so no carriage return gets into a message. -/

namespace PlatformGate.Options

open Text

variable {α β : Type}

namespace Outcome

/-- The fault, if reading has come to one, has the property. -/
def Faults (P : Fault → Prop) : Outcome α → Prop
  | done _ _ => True
  | failed fault _ _ => P fault

variable {P : Fault → Prop} {o : Outcome α}

theorem Faults.map (h : o.Faults P) (f : α → β) : (o.map f).Faults P := by
  cases o with
  | done => exact True.intro
  | failed => exact h

theorem Faults.andThen {next : α → List Char → Outcome β} (h : o.Faults P)
    (later : ∀ value rest, (next value rest).Faults P) : (o.andThen next).Faults P := by
  cases o with
  | done value rest => exact later value rest
  | failed => exact h

theorem Faults.of_failed {fault : Fault} {place rest : List Char} (h : o.Faults P)
    (failed : o = .failed fault place rest) : P fault := by
  rw [failed] at h
  exact h

end Outcome

def Fault.IsPlain (fault : Fault) : Prop := ¬HasReturn fault.message

theorem isPlain_token {expected : List Char} (plain : '\r' ∉ expected) (text : List Char) :
    (Fault.token expected (skipBlank text).head?).IsPlain := by
  have constants : ¬HasReturn "expected " ∧ ¬HasReturn "`" ∧ ¬HasReturn ", found " :=
    ⟨not_hasReturn_ofList (by decide), not_hasReturn_ofList (by decide),
      not_hasReturn_ofList (by decide)⟩
  have quoted : ¬HasReturn (String.ofList expected) := by
    rwa [HasReturn, String.toList_ofList]
  have found : ¬HasReturn
      (((skipBlank text).head?.map String.singleton).getD "end of input") := by
    cases start : skipBlank text with
    | nil => exact not_hasReturn_ofList (by decide)
    | cons c rest =>
      obtain ⟨d, head, solid⟩ := startsSolid_skipBlank (start ▸ List.cons_ne_nil c rest)
      rw [start] at head
      cases head
      have other : '\r' ≠ c := ne_of_isBlank rfl solid
      simpa [HasReturn] using other
  unfold Fault.IsPlain Fault.message Fault.between
  rw [hasReturn_append, hasReturn_append, hasReturn_append, hasReturn_append, hasReturn_append,
    hasReturn_append, hasReturn_append]
  simp only [constants, quoted, found, or_self, not_false_eq_true]

theorem faults_expect {token : List Char} (plain : '\r' ∉ token) (text : List Char) :
    (expect token text).Faults Fault.IsPlain := by
  simp only [expect]
  split
  · exact True.intro
  · exact isPlain_token plain text

theorem faults_skipReturnType (previous : Option Char) (text : List Char) :
    (skipReturnType previous text).Faults Fault.IsPlain := by
  have message : Fault.returnType.IsPlain := not_hasReturn_ofList (by decide)
  simp only [skipReturnType]
  split
  · exact message
  · exact True.intro

theorem faults_skipArguments (text : List Char) : (skipArguments text).Faults Fault.IsPlain := by
  have angle : Fault.unclosedAngle.IsPlain := not_hasReturn_ofList (by decide)
  have parenthesis : Fault.unclosedParenthesis.IsPlain := not_hasReturn_ofList (by decide)
  unfold skipArguments
  split
  · split
    · exact True.intro
    · exact angle
  · split
    · exact parenthesis
    · split
      · exact (faults_skipReturnType _ _).map _
      · exact True.intro
  · exact True.intro

theorem faults_takeName_traitPath (text : List Char) :
    (takeName "trait path" text).Faults Fault.IsPlain := by
  have message : (Fault.name "trait path").IsPlain := by unfold Fault.IsPlain; decide
  simp only [takeName]
  split
  · exact message
  · exact True.intro

theorem faults_skipSegments (text : List Char) : (skipSegments text).Faults Fault.IsPlain := by
  fun_induction skipSegments text with
  | case1 text fault place rest failed => exact (faults_takeName_traitPath text).of_failed failed
  | case2 text name behindName _ fault place rest failed =>
    exact (faults_skipArguments behindName).of_failed failed
  | case3 => exact True.intro
  | case4 text name behindName _ behind _ rest _ ih => exact ih
  | case5 => exact True.intro

theorem faults_traitReader (text : List Char) :
    (traitReader.read text).Faults Fault.IsPlain := by
  simp only [traitReader, traitPath_eq]
  exact (faults_skipSegments _).andThen fun _ _ => True.intro

theorem faults_groupReader (text : List Char) :
    (groupReader.read text).Faults Fault.IsPlain := by
  have message : Fault.group.IsPlain := by unfold Fault.IsPlain; decide
  simp only [groupReader, readGroup]
  split
  · exact True.intro
  · exact message

section List

variable {reader : ItemReader α} (plain : ∀ text, (reader.read text).Faults Fault.IsPlain)

include plain

theorem faults_readItems (text : List Char) : (readItems reader text).Faults Fault.IsPlain := by
  fun_induction readItems reader text with
  | case1 => exact True.intro
  | case2 text _ fault place rest failed => exact (plain text).of_failed failed
  | case3 text _ item behind _ rest _ ih => exact ih.map _
  | case4 => exact True.intro

theorem faults_readList (text : List Char) : (readList reader text).Faults Fault.IsPlain :=
  (faults_expect (by decide) text).andThen fun _ inner =>
    (faults_readItems plain inner).andThen fun _ behind =>
      (faults_expect (by decide) behind).map _

end List

theorem faults_readClause (allowed : Bool) (text : List Char) :
    (readClause allowed text).Faults Fault.IsPlain := by
  have message : (Fault.clause allowed).IsPlain := by
    unfold Fault.IsPlain
    cases allowed <;> decide
  simp only [readClause]
  split_ifs
  · exact (faults_readList faults_groupReader _).map _
  · exact (faults_readList faults_groupReader _).map _
  · exact (faults_readList faults_traitReader _).map _
  · exact message

theorem faults_readClauses (allowed : Bool) (text : List Char) :
    (readClauses allowed text).Faults Fault.IsPlain := by
  fun_induction readClauses allowed text with
  | case1 => exact True.intro
  | case2 text _ fault place rest failed => exact (faults_readClause allowed text).of_failed failed
  | case3 => exact True.intro
  | case4 text _ clause behind _ _ fault place rest failed =>
    exact (faults_expect (by decide) behind).of_failed failed
  | case5 text _ clause behind _ _ rest _ ih => exact ih.map _

end PlatformGate.Options
