import PlatformGate.Options.TraitPath

/-!
Clauses of option text: a keyword with a list between parentheses. Clauses, and the items of a
list, are separated by commas, and a comma may also stand behind the last.
-/

namespace PlatformGate.Options

open Text

structure ItemReader (α : Type) where
  read : List Char → Outcome α
  read_length {text rest : List Char} {item : α} :
    read text = .done item rest → rest.length < text.length

def readGroup (text : List Char) : Outcome Group :=
  let start := skipBlank text
  let name := leadingName start
  match Group.ofKeyword? (String.ofList name) with
  | some group => .done group (start.drop name.length)
  | none => .failed .group start start

theorem ofKeyword?_empty : Group.ofKeyword? "" = none := by decide

theorem readGroup_length {text rest : List Char} {group : Group}
    (h : readGroup text = .done group rest) : rest.length < text.length := by
  simp only [readGroup] at h
  split at h
  next found =>
    have bound := skipBlank_length_le text
    have fits := (leadingName_isPrefix (skipBlank text)).length_le
    have positive : 0 < (leadingName (skipBlank text)).length := by
      refine List.length_pos_iff.mpr fun empty => ?_
      rw [empty] at found
      exact absurd found (by simp [ofKeyword?_empty])
    cases h
    rw [List.length_drop]
    omega
  next => cases h

def groupReader : ItemReader Group := ⟨readGroup, readGroup_length⟩

def traitReader : ItemReader String := ⟨traitPath, traitPath_length⟩

variable {α : Type}

/-- Reads items up to the closing parenthesis, or up to an item without a comma behind it. -/
def readItems (reader : ItemReader α) (text : List Char) : Outcome (List α) :=
  if follows [')'] text then .done [] (skipBlank text)
  else
    match _ : reader.read text with
    | .failed fault place rest => .failed fault place rest
    | .done item behind =>
      match _ : skipBlank behind with
      | ',' :: rest => (readItems reader rest).map (item :: ·)
      | rest => .done [item] rest
termination_by text.length
decreasing_by
  have item := reader.read_length ‹_›
  have comma := skipBlank_length_le behind
  simp only [*, List.length_cons] at comma
  omega

def readList (reader : ItemReader α) (text : List Char) : Outcome (List α) :=
  (expect ['('] text).andThen fun _ inner =>
    (readItems reader inner).andThen fun items behind =>
      (expect [')'] behind).map fun _ => items

theorem readItems_length {reader : ItemReader α} {text rest : List Char} {items : List α}
    (h : readItems reader text = .done items rest) : rest.length ≤ text.length := by
  fun_induction readItems reader text generalizing items rest with
  | case1 text => cases h; exact skipBlank_length_le text
  | case2 => cases h
  | case3 text _ item behind read tail comma ih =>
    obtain ⟨_, inner, -⟩ := Outcome.map_eq_done.mp h
    have h₁ := reader.read_length read
    have h₂ := skipBlank_length_le behind
    have h₃ := ih inner
    rw [comma, List.length_cons] at h₂
    omega
  | case4 text _ item behind read =>
    cases h
    have h₁ := reader.read_length read
    have h₂ := skipBlank_length_le behind
    omega

theorem readList_length {reader : ItemReader α} {text rest : List Char} {items : List α}
    (h : readList reader text = .done items rest) : rest.length < text.length := by
  obtain ⟨_, inner, opened, h⟩ := Outcome.andThen_eq_done.mp h
  obtain ⟨_, behind, read, h⟩ := Outcome.andThen_eq_done.mp h
  obtain ⟨_, closed, -⟩ := Outcome.map_eq_done.mp h
  have h₁ := expect_length (List.cons_ne_nil _ _) opened
  have h₂ := readItems_length read
  have h₃ := expect_length (List.cons_ne_nil _ _) closed
  omega

inductive Clause where
  | includes (groups : List Group)
  | excludes (groups : List Group)
  | traits (paths : List String)
  deriving DecidableEq, Repr

def readClause (traitsAllowed : Bool) (text : List Char) : Outcome Clause :=
  let start := skipBlank text
  let keyword := leadingName start
  let behind := start.drop keyword.length
  if keyword = "include".toList then (readList groupReader behind).map .includes
  else if keyword = "exclude".toList then (readList groupReader behind).map .excludes
  else if keyword = "traits".toList ∧ traitsAllowed then
    (readList traitReader behind).map .traits
  else .failed (.clause traitsAllowed) start start

theorem readClause_length {traitsAllowed : Bool} {text rest : List Char} {clause : Clause}
    (h : readClause traitsAllowed text = .done clause rest) : rest.length < text.length := by
  have bound := skipBlank_length_le text
  have dropped : ((skipBlank text).drop (leadingName (skipBlank text)).length).length ≤
      (skipBlank text).length := by
    rw [List.length_drop]
    omega
  have read : ∀ {β : Type} {reader : ItemReader β} {items : List β},
      readList reader ((skipBlank text).drop (leadingName (skipBlank text)).length) =
        .done items rest → rest.length < text.length := by
    intro β reader items e
    have := readList_length e
    omega
  simp only [readClause] at h
  split at h
  · obtain ⟨_, e, -⟩ := Outcome.map_eq_done.mp h
    exact read e
  · split at h
    · obtain ⟨_, e, -⟩ := Outcome.map_eq_done.mp h
      exact read e
    · split at h
      · obtain ⟨_, e, -⟩ := Outcome.map_eq_done.mp h
        exact read e
      · cases h

def readClauses (traitsAllowed : Bool) (text : List Char) : Outcome (List Clause) :=
  if (skipBlank text).isEmpty then .done [] []
  else
    match _ : readClause traitsAllowed text with
    | .failed fault place rest => .failed fault place rest
    | .done clause behind =>
      if (skipBlank behind).isEmpty then .done [clause] []
      else
        match _ : expect [','] behind with
        | .failed fault place rest => .failed fault place rest
        | .done () rest => (readClauses traitsAllowed rest).map (clause :: ·)
termination_by text.length
decreasing_by
  have clause := readClause_length ‹readClause _ _ = _›
  have comma := expect_length (List.cons_ne_nil _ _) ‹expect _ _ = _›
  omega

end PlatformGate.Options
