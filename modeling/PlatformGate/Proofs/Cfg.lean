import Mathlib.Data.List.Infix
import PlatformGate.Cfg

/-! What a written guard means. A reader of predicates finds the predicate that a guard was
written from, so what is proved of that predicate is true of the text. -/

namespace PlatformGate.Cfg

/-- The value in front of the closing quotation mark, and the text behind it. A value with an
escape in it is not read. -/
def readValue : List Char → Option (List Char × List Char)
  | [] => none
  | '"' :: rest => some ([], rest)
  | '\\' :: _ => none
  | c :: rest => (readValue rest).map fun read => (c :: read.1, read.2)

def readTest (text : List Char) : Option (String × List Char) :=
  (text.dropPrefix? "target_os = \"".toList).bind fun rest =>
    (readValue rest).map fun read => (String.ofList read.1, read.2)

theorem readValue_length {text value rest : List Char}
    (h : readValue text = some (value, rest)) : rest.length < text.length := by
  fun_induction readValue text generalizing value with
  | case1 => cases h
  | case2 => cases h; simp
  | case3 => cases h
  | case4 c tail _ _ ih =>
    obtain ⟨read, inner, split⟩ := Option.map_eq_some_iff.mp h
    cases split
    have shorter := ih inner
    rw [List.length_cons]
    omega

theorem readTest_length {text rest : List Char} {value : String}
    (h : readTest text = some (value, rest)) : rest.length < text.length := by
  obtain ⟨quoted, begins, h⟩ := Option.bind_eq_some_iff.mp h
  obtain ⟨read, inner, split⟩ := Option.map_eq_some_iff.mp h
  cases split
  obtain ⟨lead, rfl, -⟩ := List.dropPrefix?_eq_some_iff.mp begins
  have shorter := readValue_length inner
  rw [List.length_append]
  omega

def readTests (text : List Char) : Option (List String) :=
  match _ : readTest text with
  | some (value, [')']) => some [value]
  | some (value, ',' :: ' ' :: rest) => (readTests rest).map (value :: ·)
  | _ => none
termination_by text.length
decreasing_by
  have shorter := readTest_length ‹_›
  simp only [List.length_cons] at shorter
  omega

def ofText? (text : String) : Option Cfg :=
  match text.toList.dropPrefix? "any(".toList with
  | some [')'] => some (anyTargetOs [])
  | some terms => (readTests terms).map anyTargetOs
  | none =>
    match readTest text.toList with
    | some (value, []) => some (targetOs value)
    | _ => none

def IsPlain (value : String) : Prop := ∀ c ∈ value.toList, c ≠ '"' ∧ c ≠ '\\'

def values : Cfg → List String
  | targetOs value => [value]
  | anyTargetOs values => values

theorem readValue_append {value : List Char} (plain : ∀ c ∈ value, c ≠ '"' ∧ c ≠ '\\')
    (rest : List Char) : readValue (value ++ '"' :: rest) = some (value, rest) := by
  induction value with
  | nil => rfl
  | cons c value ih =>
    obtain ⟨⟨notQuote, notEscape⟩, others⟩ := List.forall_mem_cons.mp plain
    rw [List.cons_append, readValue, ih others]
    · rfl
    · exact notQuote
    · exact notEscape

theorem toList_test (value : String) :
    (test value).toList = "target_os = \"".toList ++ (value.toList ++ ['"']) := by
  simp [test]

theorem readTest_test {value : String} (plain : IsPlain value) (rest : List Char) :
    readTest ((test value).toList ++ rest) = some (value, rest) := by
  have begins : ((test value).toList ++ rest).dropPrefix? "target_os = \"".toList =
      some (value.toList ++ '"' :: rest) := by
    rw [toList_test, List.append_assoc, List.dropPrefix?_append_of_beq _ (beq_self_eq_true _),
      List.append_assoc, List.singleton_append]
  rw [readTest, begins, Option.bind_some, readValue_append plain, Option.map_some,
    String.ofList_toList]

theorem readTests_of_end {text : List Char} {value : String}
    (h : readTest text = some (value, [')'])) : readTests text = some [value] := by
  rw [readTests]
  split
  next read =>
    cases h.symm.trans read
    rfl
  next read => cases h.symm.trans read
  next other _ => exact absurd h (other value)

theorem readTests_of_comma {text rest : List Char} {value : String}
    (h : readTest text = some (value, ',' :: ' ' :: rest)) :
    readTests text = (readTests rest).map (value :: ·) := by
  rw [readTests]
  split
  next read => cases h.symm.trans read
  next read =>
    cases h.symm.trans read
    rfl
  next _ other => exact absurd h (other value rest)

theorem readTests_intercalate {value : String} {others : List String} (plain : IsPlain value)
    (plainOthers : ∀ other ∈ others, IsPlain other) :
    readTests ((", ".intercalate ((value :: others).map test)).toList ++ [')']) =
      some (value :: others) := by
  induction others generalizing value with
  | nil =>
    rw [List.map_singleton, String.intercalate_singleton]
    exact readTests_of_end (readTest_test plain _)
  | cons next others ih =>
    obtain ⟨plainNext, plainLater⟩ := List.forall_mem_cons.mp plainOthers
    have comma : ", ".toList = [',', ' '] := rfl
    rw [List.map_cons, List.map_cons, String.intercalate_cons_cons, ← List.map_cons,
      String.toList_append, String.toList_append, comma, List.append_assoc, List.append_assoc,
      List.cons_append, List.cons_append, List.nil_append,
      readTests_of_comma (readTest_test plain _), ih plainNext plainLater, Option.map_some]

/-- What is written down is read back, unless a value needs escapes. -/
theorem ofText?_render {cfg : Cfg} (plain : ∀ value ∈ cfg.values, IsPlain value) :
    ofText? cfg.render = some cfg := by
  cases cfg with
  | targetOs value =>
    have read := readTest_test (plain value List.mem_cons_self) []
    rw [List.append_nil] at read
    have begins : (test value).toList.dropPrefix? "any(".toList = none := by
      rw [toList_test]
      rfl
    simp only [ofText?, render, begins, read]
  | anyTargetOs values =>
    have begins : ((anyTargetOs values).render).toList.dropPrefix? "any(".toList =
        some ((", ".intercalate (values.map test)).toList ++ [')']) := by
      rw [render, String.toList_append, String.toList_append, List.append_assoc]
      exact List.dropPrefix?_append_of_beq _ (beq_self_eq_true _)
    rw [ofText?, begins]
    cases values with
    | nil => rfl
    | cons value others =>
      obtain ⟨first, later⟩ := List.forall_mem_cons.mp plain
      have read := readTests_intercalate first later
      split
      next alone =>
        have length := congrArg List.length (Option.some.inj alone)
        simp [test] at length
      next terms _ same =>
        rw [← Option.some.inj same, read]
        rfl
      next missing => cases missing

theorem isPlain_name (platform : Platform) : IsPlain platform.name := by
  cases platform <;> simp [IsPlain, Platform.name]

theorem ofText?_renderGuard (platforms : List Platform) :
    ofText? (renderGuard platforms) = some (ofPlatforms platforms) := by
  refine ofText?_render fun value mem => ?_
  obtain ⟨platform, -, rfl⟩ : ∃ platform ∈ platforms, platform.name = value := by
    unfold ofPlatforms at mem
    split at mem <;> simpa [values, eq_comm] using mem
  exact isPlain_name platform

end PlatformGate.Cfg
