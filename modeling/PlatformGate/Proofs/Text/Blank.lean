import Mathlib.Data.List.TakeWhile
import PlatformGate.Text.Blank

/-! White space at the joints of a text. Skipping, trimming and the folding of runs are
computed piece by piece: where one of two neighbouring pieces is solid at the joint, no run of
white space crosses it, and both pieces are folded by themselves. -/

namespace PlatformGate.Text

def AllBlank (text : List Char) : Prop := ∀ c ∈ text, isBlank c = true

instance (text : List Char) : Decidable (AllBlank text) :=
  decidable_of_iff (text.all isBlank = true) List.all_eq_true

def StartsSolid (text : List Char) : Prop := ∃ c, text.head? = some c ∧ isBlank c = false

def EndsSolid (text : List Char) : Prop := ∃ c, text.getLast? = some c ∧ isBlank c = false

theorem allBlank_nil : AllBlank [] := by simp [AllBlank]

theorem allBlank_space : AllBlank [' '] := by
  intro c hc
  rw [List.mem_singleton.mp hc]
  rfl

theorem AllBlank.append {s t : List Char} (hs : AllBlank s) (ht : AllBlank t) :
    AllBlank (s ++ t) := by
  intro c hc
  rcases List.mem_append.mp hc with h | h
  · exact hs c h
  · exact ht c h

theorem AllBlank.not_mem {w : List Char} (h : AllBlank w) {c : Char} (solid : isBlank c = false) :
    c ∉ w := fun mem => by
  rw [h c mem] at solid
  cases solid

theorem StartsSolid.append {s : List Char} (h : StartsSolid s) (t : List Char) :
    StartsSolid (s ++ t) := by
  obtain ⟨c, hc, solid⟩ := h
  exact ⟨c, by simp [List.head?_append, hc], solid⟩

theorem StartsSolid.ne_nil {s : List Char} (h : StartsSolid s) : s ≠ [] := by
  obtain ⟨c, hc, -⟩ := h
  rintro rfl
  cases hc

theorem EndsSolid.append {t : List Char} (s : List Char) (h : EndsSolid t) :
    EndsSolid (s ++ t) := by
  obtain ⟨c, hc, solid⟩ := h
  exact ⟨c, by simp [List.getLast?_append, hc], solid⟩

theorem EndsSolid.ne_nil {text : List Char} (h : EndsSolid text) : text ≠ [] := by
  obtain ⟨c, hc, -⟩ := h
  rintro rfl
  cases hc

theorem EndsSolid.tail {c : Char} {rest : List Char} (h : EndsSolid (c :: rest))
    (more : rest ≠ []) : EndsSolid rest := by
  obtain ⟨d, others, rfl⟩ := List.exists_cons_of_ne_nil more
  rwa [EndsSolid, List.getLast?_cons_cons] at h

theorem AllBlank.eq_nil {w t : List Char} (hw : AllBlank w) (h : StartsSolid (w ++ t)) :
    w = [] := by
  cases w with
  | nil => rfl
  | cons c w =>
    obtain ⟨d, hd, solid⟩ := h
    cases hd
    rw [hw c List.mem_cons_self] at solid
    cases solid

theorem startsSolid_cons {c : Char} (h : isBlank c = false) (t : List Char) :
    StartsSolid (c :: t) := ⟨c, rfl, h⟩

theorem skipBlank_append {w : List Char} (h : AllBlank w) (t : List Char) :
    skipBlank (w ++ t) = skipBlank t := List.dropWhile_append_of_pos h

theorem skipBlank_of_startsSolid {t : List Char} (h : StartsSolid t) : skipBlank t = t := by
  obtain ⟨c, hc, solid⟩ := h
  cases t with
  | nil => rfl
  | cons d t =>
    cases hc
    exact List.dropWhile_cons_of_neg (by simp [solid])

theorem skipBlank_append_solid {w t : List Char} (hw : AllBlank w) (ht : StartsSolid t) :
    skipBlank (w ++ t) = t := by
  rw [skipBlank_append hw, skipBlank_of_startsSolid ht]

theorem skipBlank_cons {c : Char} (solid : isBlank c = false) (t : List Char) :
    skipBlank (c :: t) = c :: t := skipBlank_of_startsSolid (startsSolid_cons solid t)

theorem skipBlank_append_cons {w : List Char} (hw : AllBlank w) {c : Char}
    (solid : isBlank c = false) (t : List Char) : skipBlank (w ++ c :: t) = c :: t := by
  rw [skipBlank_append hw, skipBlank_cons solid]

theorem skipBlank_eq_nil {t : List Char} : skipBlank t = [] ↔ AllBlank t :=
  List.dropWhile_eq_nil_iff

theorem exists_blank_append (t : List Char) : ∃ w, AllBlank w ∧ t = w ++ skipBlank t :=
  ⟨t.takeWhile isBlank, fun _ hc => List.mem_takeWhile_imp hc,
    (List.takeWhile_append_dropWhile).symm⟩

theorem startsSolid_skipBlank {t : List Char} (h : skipBlank t ≠ []) :
    StartsSolid (skipBlank t) :=
  ⟨(skipBlank t).head h, List.head?_eq_some_head h, List.head_dropWhile_not isBlank h⟩

theorem skipBlank_skipBlank (t : List Char) : skipBlank (skipBlank t) = skipBlank t := by
  by_cases empty : skipBlank t = []
  · rw [empty]
    rfl
  · exact skipBlank_of_startsSolid (startsSolid_skipBlank empty)

theorem StartsSolid.of_append {s t : List Char} (nonempty : s ≠ []) (h : StartsSolid (s ++ t)) :
    StartsSolid s := by
  cases s with
  | nil => exact absurd rfl nonempty
  | cons c s => exact h

theorem exists_append_blank {t : List Char} (h : StartsSolid t) :
    ∃ s w, StartsSolid s ∧ EndsSolid s ∧ AllBlank w ∧ t = s ++ w := by
  obtain ⟨w, hw, split⟩ := exists_blank_append t.reverse
  have nonempty : skipBlank t.reverse ≠ [] := fun empty => by
    obtain ⟨c, hc, solid⟩ := h
    have blank := skipBlank_eq_nil.mp empty c (List.mem_reverse.mpr (List.mem_of_head? hc))
    rw [blank] at solid
    cases solid
  obtain ⟨d, hd, solid⟩ := startsSolid_skipBlank nonempty
  have split' : t = (skipBlank t.reverse).reverse ++ w.reverse := by
    rw [← List.reverse_append, ← split, List.reverse_reverse]
  rw [split'] at h
  exact ⟨_, _, h.of_append (by simpa using nonempty), ⟨d, by rw [List.getLast?_reverse, hd], solid⟩,
    fun e he => hw e (List.mem_reverse.mp he), split'⟩

theorem dropEndWhile_allBlank {w : List Char} (h : AllBlank w) :
    dropEndWhile isBlank w = [] := by
  induction w with
  | nil => rfl
  | cons c w ih =>
    have tail := ih fun d hd => h d (List.mem_cons_of_mem c hd)
    simp [dropEndWhile, tail, h c List.mem_cons_self]

theorem dropEndWhile_append {s w : List Char} (hs : EndsSolid s) (hw : AllBlank w) :
    dropEndWhile isBlank (s ++ w) = s := by
  induction s with
  | nil =>
    obtain ⟨c, hc, -⟩ := hs
    cases hc
  | cons c s ih =>
    obtain ⟨d, hd, solid⟩ := hs
    cases s with
    | nil =>
      cases hd
      rw [List.getLast_singleton] at solid
      simp [dropEndWhile, dropEndWhile_allBlank hw, solid]
    | cons e s =>
      rw [List.getLast?_cons_cons] at hd
      have tail := ih ⟨d, hd, solid⟩
      rw [List.cons_append] at tail
      rw [List.cons_append, List.cons_append, dropEndWhile, tail]

theorem trimmed_append {s w : List Char} (starts : StartsSolid s) (ends : EndsSolid s)
    (hw : AllBlank w) : trimmed (s ++ w) = s := by
  rw [trimmed, skipBlank_of_startsSolid (starts.append w), dropEndWhile_append ends hw]

theorem solid_trimmed {t : List Char} (h : trimmed t ≠ []) :
    StartsSolid (trimmed t) ∧ EndsSolid (trimmed t) := by
  by_cases empty : skipBlank t = []
  · rw [trimmed, empty] at h
    exact absurd rfl h
  · obtain ⟨s, w, starts, ends, hw, split⟩ := exists_append_blank (startsSolid_skipBlank empty)
    rw [trimmed, split, dropEndWhile_append ends hw]
    exact ⟨starts, ends⟩

theorem trimmed_eq_nil {t : List Char} : trimmed t = [] ↔ AllBlank t := by
  rw [← skipBlank_eq_nil]
  constructor
  · intro nothing
    by_contra nonempty
    obtain ⟨s, w, starts, ends, hw, split⟩ := exists_append_blank (startsSolid_skipBlank nonempty)
    rw [trimmed, split, dropEndWhile_append ends hw] at nothing
    exact starts.ne_nil nothing
  · intro nothing
    rw [trimmed, nothing]
    rfl

theorem trimmed_trimmed (t : List Char) : trimmed (trimmed t) = trimmed t := by
  by_cases empty : trimmed t = []
  · rw [empty]
    rfl
  · obtain ⟨starts, ends⟩ := solid_trimmed empty
    simpa using trimmed_append starts ends allBlank_nil

/-- Whether a run of white space is open behind the text. -/
def runBehind (inRun : Bool) : List Char → Bool
  | [] => inRun
  | c :: rest => runBehind (isBlank c) rest

theorem foldRuns_append (inRun : Bool) (s t : List Char) :
    foldRuns inRun (s ++ t) = foldRuns inRun s ++ foldRuns (runBehind inRun s) t := by
  induction s generalizing inRun with
  | nil => rfl
  | cons c s ih =>
    cases blank : isBlank c <;> cases inRun <;> simp [foldRuns, runBehind, blank, ih]

theorem runBehind_of_endsSolid {s : List Char} (inRun : Bool) (h : EndsSolid s) :
    runBehind inRun s = false := by
  obtain ⟨d, hd, solid⟩ := h
  induction s generalizing inRun with
  | nil => cases hd
  | cons c s ih =>
    cases s with
    | nil => cases hd; exact solid
    | cons e s =>
      rw [List.getLast?_cons_cons] at hd
      exact ih (isBlank c) hd

theorem foldRuns_of_startsSolid {t : List Char} (inRun : Bool) (h : StartsSolid t) :
    foldRuns inRun t = foldRuns false t := by
  obtain ⟨c, hc, solid⟩ := h
  cases t with
  | nil => cases hc
  | cons d t =>
    cases hc
    simp [foldRuns, solid]

theorem foldRuns_append_of_endsSolid {s : List Char} (inRun : Bool) (h : EndsSolid s)
    (t : List Char) : foldRuns inRun (s ++ t) = foldRuns inRun s ++ foldRuns false t := by
  rw [foldRuns_append, runBehind_of_endsSolid inRun h]

theorem foldRuns_append_of_startsSolid {t : List Char} (inRun : Bool) (s : List Char)
    (h : StartsSolid t) : foldRuns inRun (s ++ t) = foldRuns inRun s ++ foldRuns false t := by
  rw [foldRuns_append, foldRuns_of_startsSolid _ h]

theorem foldRuns_of_solid {s : List Char} (inRun : Bool) (h : ∀ c ∈ s, isBlank c = false) :
    foldRuns inRun s = s := by
  induction s generalizing inRun with
  | nil => rfl
  | cons c s ih =>
    rw [foldRuns, h c List.mem_cons_self, if_neg Bool.false_ne_true,
      ih _ fun d hd => h d (List.mem_cons_of_mem c hd)]

theorem allBlank_foldRuns {w : List Char} (inRun : Bool) (h : AllBlank w) :
    AllBlank (foldRuns inRun w) := by
  induction w generalizing inRun with
  | nil => exact allBlank_nil
  | cons c w ih =>
    have tail := ih true fun d hd => h d (List.mem_cons_of_mem c hd)
    rw [foldRuns, if_pos (h c List.mem_cons_self)]
    cases inRun
    · exact allBlank_space.append tail
    · exact tail

theorem foldRuns_foldRuns (inRun : Bool) (s : List Char) :
    foldRuns inRun (foldRuns inRun s) = foldRuns inRun s := by
  have space : isBlank ' ' = true := rfl
  induction s generalizing inRun with
  | nil => rfl
  | cons c s ih =>
    cases blank : isBlank c <;> cases inRun <;> simp [foldRuns, blank, space, ih]

theorem head?_foldRuns {s : List Char} (inRun : Bool) (h : StartsSolid s) :
    (foldRuns inRun s).head? = s.head? := by
  obtain ⟨c, hc, solid⟩ := h
  cases s with
  | nil => rfl
  | cons d s =>
    cases hc
    simp [foldRuns, solid]

theorem getLast?_foldRuns {s : List Char} (inRun : Bool) (h : EndsSolid s) :
    (foldRuns inRun s).getLast? = s.getLast? := by
  obtain ⟨c, hc, solid⟩ := h
  obtain ⟨front, rfl⟩ := List.getLast?_eq_some_iff.mp hc
  rw [foldRuns_append_of_startsSolid inRun front (startsSolid_cons solid []),
    foldRuns_of_solid false (by simpa using solid)]
  simp

theorem StartsSolid.foldRuns {s : List Char} (h : StartsSolid s) :
    StartsSolid (foldRuns false s) := by
  rwa [StartsSolid, head?_foldRuns false h]

theorem EndsSolid.foldRuns {s : List Char} (h : EndsSolid s) :
    EndsSolid (foldRuns false s) := by
  rwa [EndsSolid, getLast?_foldRuns false h]

theorem squeeze_append {s w : List Char} (starts : StartsSolid s) (ends : EndsSolid s)
    (hw : AllBlank w) : squeeze (s ++ w) = foldRuns false s := by
  rw [squeeze, trimmed_append starts ends hw]

end PlatformGate.Text
