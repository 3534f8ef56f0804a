import PlatformGate.Proofs.Text.Blank
import PlatformGate.Text.Lines

/-! What is left of a text that is divided into lines and put together again with line feeds. Every
line end has become a line feed, so the text is kept if it has no other line ends. -/

namespace PlatformGate.Text

theorem isBlank_of_isLineEnd {c : Char} (h : isLineEnd c = true) : isBlank c = true := by
  simp only [isLineEnd, isBlank, Bool.or_eq_true, Bool.and_eq_true, decide_eq_true_eq,
    beq_iff_eq] at h ⊢
  omega

/-- Puts a line feed in the place of every line end, and one for a carriage return with a line
feed. -/
def feedLines : List Char → List Char
  | [] => []
  | '\r' :: '\n' :: rest => '\n' :: feedLines rest
  | c :: rest => (if isLineEnd c then '\n' else c) :: feedLines rest

theorem feedLines_cons {c : Char} {rest : List Char}
    (h : ∀ behind, c = '\r' → rest = '\n' :: behind → False) :
    feedLines (c :: rest) = (if isLineEnd c then '\n' else c) :: feedLines rest := by
  rw [feedLines]
  exact h

theorem lines_ne_nil {text : List Char} (h : text ≠ []) : lines text ≠ [] := by
  fun_cases lines text with
  | case1 => exact absurd rfl h
  | case2 => exact List.cons_ne_nil _ _
  | case3 => exact List.cons_ne_nil _ _
  | case4 c rest =>
    unfold consLine
    split <;> exact List.cons_ne_nil _ _

theorem intercalate_consLine (separator : List Char) (c : Char) (texts : List (List Char)) :
    separator.intercalate (consLine c texts) = c :: separator.intercalate texts := by
  unfold consLine
  split
  next => simp
  next line others => cases others <;> simp [List.intercalate_cons_cons]

def EndsWithinLine (text : List Char) : Prop := ∀ c ∈ text.getLast?, isLineEnd c = false

theorem EndsSolid.endsWithinLine {text : List Char} (h : EndsSolid text) : EndsWithinLine text := by
  obtain ⟨c, hc, solid⟩ := h
  intro d hd
  cases hc.symm.trans hd
  exact Bool.eq_false_iff.mpr fun isEnd => by simp [isBlank_of_isLineEnd isEnd] at solid

theorem EndsWithinLine.tail {c : Char} {rest : List Char} (h : EndsWithinLine (c :: rest)) :
    EndsWithinLine rest := by
  cases rest with
  | nil => simp [EndsWithinLine]
  | cons d rest => rwa [EndsWithinLine, List.getLast?_cons_cons] at h

theorem EndsWithinLine.ne_nil {c : Char} {rest : List Char} (h : EndsWithinLine (c :: rest))
    (isEnd : isLineEnd c = true) : rest ≠ [] := by
  rintro rfl
  rw [h c rfl] at isEnd
  cases isEnd

theorem intercalate_nil_cons_lines {rest : List Char} (more : rest ≠ []) :
    ['\n'].intercalate ([] :: lines rest) = '\n' :: ['\n'].intercalate (lines rest) := by
  obtain ⟨line, others, split⟩ := List.exists_cons_of_ne_nil (lines_ne_nil more)
  rw [split, List.intercalate_cons_cons]
  rfl

theorem intercalate_lines {text : List Char} (h : EndsWithinLine text) :
    ['\n'].intercalate (lines text) = feedLines text := by
  fun_induction lines text with
  | case1 => rfl
  | case2 rest ih =>
    rw [intercalate_nil_cons_lines (h.tail.ne_nil rfl), ih h.tail.tail, feedLines]
  | case3 c rest other isEnd ih =>
    rw [intercalate_nil_cons_lines (h.ne_nil isEnd), ih h.tail, feedLines_cons other, if_pos isEnd]
  | case4 c rest other isEnd ih =>
    rw [intercalate_consLine, ih h.tail, feedLines_cons other, if_neg isEnd]

/-- Nothing is changed only if every line end is a line feed already. -/
theorem feedLines_eq_self_iff {text : List Char} :
    feedLines text = text ↔ ∀ c ∈ text, isLineEnd c = true → c = '\n' := by
  fun_induction feedLines text with
  | case1 => simp
  | case2 rest ih => simp [show isLineEnd '\r' = true from rfl]
  | case3 c rest _ ih =>
    rw [List.cons.injEq, ih, List.forall_mem_cons]
    refine and_congr_left fun _ => ?_
    split_ifs with isEnd
    · exact ⟨fun same _ => same.symm, fun same => (same isEnd).symm⟩
    · exact iff_of_true rfl fun hc => absurd hc isEnd

theorem intercalate_splitLines {text : String} (h : EndsWithinLine text.toList) :
    "\n".intercalate (splitLines text) = String.ofList (feedLines text.toList) := by
  rw [← intercalate_lines h, ← String.toList_inj, String.toList_intercalate]
  simp [splitLines, Function.comp_def]

theorem getLast?_nil_cons_lines {rest : List Char} (more : rest ≠ []) :
    ([] :: lines rest).getLast? = (lines rest).getLast? := by
  obtain ⟨line, others, split⟩ := List.exists_cons_of_ne_nil (lines_ne_nil more)
  rw [split, List.getLast?_cons_cons]

theorem endsSolid_getLast?_consLine {c : Char} {texts : List (List Char)}
    (nonempty : texts ≠ []) (h : ∀ line ∈ texts.getLast?, EndsSolid line) :
    ∀ line ∈ (consLine c texts).getLast?, EndsSolid line := by
  obtain ⟨first, others, rfl⟩ := List.exists_cons_of_ne_nil nonempty
  cases others with
  | nil =>
    intro line mem
    cases mem
    exact (h first rfl).append [c]
  | cons second others => rwa [consLine, List.getLast?_cons_cons]

theorem endsSolid_getLast?_lines {text : List Char} (h : EndsSolid text) :
    ∀ line ∈ (lines text).getLast?, EndsSolid line := by
  fun_induction lines text with
  | case1 => exact absurd rfl h.ne_nil
  | case2 rest ih =>
    have more := h.endsWithinLine.tail.ne_nil rfl
    rw [getLast?_nil_cons_lines more]
    exact ih ((h.tail (List.cons_ne_nil _ _)).tail more)
  | case3 c rest other isEnd ih =>
    have more := h.endsWithinLine.ne_nil isEnd
    rw [getLast?_nil_cons_lines more]
    exact ih (h.tail more)
  | case4 c rest other isEnd ih =>
    by_cases more : rest = []
    · subst more
      intro line mem
      cases mem
      exact h
    · exact endsSolid_getLast?_consLine (lines_ne_nil more) (ih (h.tail more))

theorem exists_getLast?_splitLines {text : String} (h : EndsSolid text.toList) :
    ∃ line, (splitLines text).getLast? = some line ∧ EndsSolid line.toList := by
  have last := List.getLast?_eq_some_getLast (lines_ne_nil h.ne_nil)
  refine ⟨String.ofList _, by rw [splitLines, List.getLast?_map, last]; rfl, ?_⟩
  rw [String.toList_ofList]
  exact endsSolid_getLast?_lines h _ last

theorem not_isLineEnd_of_mem_lines {text line : List Char} (mem : line ∈ lines text) :
    ∀ c ∈ line, isLineEnd c = false := by
  fun_induction lines text generalizing line with
  | case1 => cases mem
  | case2 rest ih =>
    rcases List.mem_cons.mp mem with rfl | later
    · exact List.forall_mem_nil _
    · exact ih later
  | case3 c rest _ isEnd ih =>
    rcases List.mem_cons.mp mem with rfl | later
    · exact List.forall_mem_nil _
    · exact ih later
  | case4 c rest _ within ih =>
    have other := eq_false_of_ne_true within
    unfold consLine at mem
    split at mem
    next =>
      cases List.mem_singleton.mp mem
      exact List.forall_mem_singleton.mpr other
    next first others split =>
      rw [split] at ih
      rcases List.mem_cons.mp mem with rfl | later
      · exact List.forall_mem_cons.mpr ⟨other, ih List.mem_cons_self⟩
      · exact ih (List.mem_cons_of_mem _ later)

theorem endLines_append (above below : List String) :
    endLines (above ++ below) = endLines above ++ endLines below := by
  rw [endLines, List.map_append, String.join_append]
  rfl

/-- The block is not empty and has no blank line at its ends: the first character of its first line
and the last one of its last line are not white space. -/
def SolidLines (block : List String) : Prop :=
  (∃ line, block.head? = some line ∧ StartsSolid line.toList) ∧
    ∃ line, block.getLast? = some line ∧ EndsSolid line.toList

theorem SolidLines.ne_nil {block : List String} (h : SolidLines block) : block ≠ [] := by
  obtain ⟨⟨line, first, -⟩, -⟩ := h
  rintro rfl
  cases first

theorem SolidLines.append {block other : List String} (h : SolidLines block)
    (h' : SolidLines other) (between : List String) : SolidLines (block ++ (between ++ other)) := by
  obtain ⟨⟨first, here, starts⟩, -⟩ := h
  obtain ⟨-, last, there, ends⟩ := h'
  exact ⟨⟨first, by simp [List.head?_append, here], starts⟩,
    last, by simp [List.getLast?_append, there], ends⟩

theorem solidLines_singleton {line : String} (starts : StartsSolid line.toList)
    (ends : EndsSolid line.toList) : SolidLines [line] :=
  ⟨⟨line, rfl, starts⟩, line, rfl, ends⟩

theorem solidLines_of_forall {block : List String} (nonempty : block ≠ [])
    (h : ∀ line ∈ block, SolidLines [line]) : SolidLines block := by
  obtain ⟨⟨_, first, starts⟩, -⟩ := h _ (List.head_mem nonempty)
  obtain ⟨-, _, last, ends⟩ := h _ (List.getLast_mem nonempty)
  cases first
  cases last
  exact ⟨⟨_, List.head?_eq_some_head nonempty, starts⟩, _, List.getLast?_eq_some_getLast nonempty,
    ends⟩

theorem SolidLines.toList_endLines {block : List String} (h : SolidLines block) :
    ∃ front c, (endLines block).toList = front ++ [c, '\n'] ∧ isBlank c = false := by
  obtain ⟨-, line, last, c, ends, solid⟩ := h
  obtain ⟨above, rfl⟩ := List.getLast?_eq_some_iff.mp last
  obtain ⟨front, written⟩ := List.getLast?_eq_some_iff.mp ends
  refine ⟨(endLines above).toList ++ front, c, ?_, solid⟩
  rw [endLines_append, String.toList_append]
  simp [endLines, written]

end PlatformGate.Text
