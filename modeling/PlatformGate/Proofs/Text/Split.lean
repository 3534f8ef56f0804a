import PlatformGate.Proofs.Text.Blank
import PlatformGate.Text.Split

/-! Lists in one text, with a separator between the elements. What is read from such a text are
trimmed texts without the separator, and such texts are read back from the list they are put into. -/

namespace PlatformGate.Text

def Filled (text : String) : Prop := text ≠ "" ∧ trim text = text

instance (text : String) : Decidable (Filled text) :=
  inferInstanceAs (Decidable (text ≠ "" ∧ trim text = text))

theorem trim_trim (text : String) : trim (trim text) = trim text := by
  rw [trim, trim, String.toList_ofList, trimmed_trimmed]

theorem trim_eq_empty {text : String} : trim text = "" ↔ AllBlank text.toList := by
  rw [trim, String.ofList_eq_empty_iff, trimmed_eq_nil]

theorem filled_trim {text : String} (h : trim text ≠ "") : Filled (trim text) :=
  ⟨h, trim_trim text⟩

theorem filled_ofList {text : List Char} (h : trimmed text ≠ []) :
    Filled (String.ofList (trimmed text)) := by
  refine ⟨fun empty => h (String.ofList_eq_empty_iff.mp empty), ?_⟩
  rw [trim, String.toList_ofList, trimmed_trimmed]

theorem Filled.toList_ne_nil {text : String} (h : Filled text) : text.toList ≠ [] :=
  fun empty => h.1 (String.toList_eq_nil_iff.mp empty)

theorem Filled.trimmed_toList {text : String} (h : Filled text) :
    trimmed text.toList = text.toList := by
  have kept := congrArg String.toList h.2
  rwa [trim, String.toList_ofList] at kept

theorem Filled.solid {text : String} (h : Filled text) :
    StartsSolid text.toList ∧ EndsSolid text.toList := by
  have solid := solid_trimmed (h.trimmed_toList.symm ▸ h.toList_ne_nil)
  rwa [h.trimmed_toList] at solid

theorem trimmed_between {w s v : List Char} (hw : AllBlank w) (starts : StartsSolid s)
    (ends : EndsSolid s) (hv : AllBlank v) : trimmed (w ++ (s ++ v)) = s := by
  rw [trimmed, skipBlank_append hw]
  exact trimmed_append starts ends hv

theorem dropEndWhile_isPrefix (test : Char → Bool) (text : List Char) :
    (dropEndWhile test text).IsPrefix text := by
  fun_induction dropEndWhile test text with
  | case1 => exact List.prefix_rfl
  | case2 => exact List.nil_prefix
  | case3 c rest empty => exact ⟨rest, rfl⟩
  | case4 c rest d kept found ih => exact List.prefix_cons_inj c |>.mpr (found ▸ ih)

theorem trimmed_sublist (text : List Char) : (trimmed text).Sublist text :=
  (dropEndWhile_isPrefix isBlank (skipBlank text)).sublist.trans (List.dropWhile_suffix isBlank).sublist

theorem pieces_of_not_mem {separator : Char} {text : List Char} (h : separator ∉ text) :
    pieces separator text = [text] := by
  induction text with
  | nil => rfl
  | cons c text ih =>
    obtain ⟨here, later⟩ := List.ne_and_not_mem_of_not_mem_cons h
    rw [pieces, if_neg (Ne.symm here), ih later]
    rfl

theorem pieces_append {separator : Char} {front : List Char} (h : separator ∉ front)
    (rest : List Char) :
    pieces separator (front ++ separator :: rest) = front :: pieces separator rest := by
  induction front with
  | nil => rw [List.nil_append, pieces, if_pos rfl]
  | cons c front ih =>
    obtain ⟨here, later⟩ := List.ne_and_not_mem_of_not_mem_cons h
    rw [List.cons_append, pieces, if_neg (Ne.symm here), ih later]
    rfl

theorem not_mem_of_mem_pieces {separator : Char} {text piece : List Char}
    (mem : piece ∈ pieces separator text) : separator ∉ piece := by
  induction text generalizing piece with
  | nil =>
    cases List.mem_singleton.mp mem
    exact List.not_mem_nil
  | cons c text ih =>
    rw [pieces] at mem
    split at mem
    next =>
      rcases List.mem_cons.mp mem with rfl | later
      · exact List.not_mem_nil
      · exact ih later
    next other =>
      unfold consLine at mem
      split at mem
      next =>
        cases List.mem_singleton.mp mem
        exact fun found => other (List.mem_singleton.mp found).symm
      next line others split =>
        rcases List.mem_cons.mp mem with rfl | later
        · exact List.not_mem_cons_of_ne_of_not_mem (Ne.symm other) (ih (split ▸ List.mem_cons_self))
        · exact ih (split ▸ List.mem_cons_of_mem line later)

def IsPart (separator : Char) (text : String) : Prop := Filled text ∧ separator ∉ text.toList

theorem isPart_of_mem_splitList {separator : Char} {text part : String}
    (mem : part ∈ splitList separator text) : IsPart separator part := by
  obtain ⟨_, kept, rfl⟩ := List.mem_map.mp mem
  obtain ⟨trims, nonempty⟩ := List.mem_filter.mp kept
  obtain ⟨piece, divided, rfl⟩ := List.mem_map.mp trims
  refine ⟨filled_ofList (of_decide_eq_true nonempty), ?_⟩
  rw [String.toList_ofList]
  exact fun found => not_mem_of_mem_pieces divided ((trimmed_sublist piece).subset found)

/-- White space around the separators and in front of the whole is not part of the elements. -/
theorem map_trimmed_pieces {separator : Char} (solid : isBlank separator = false)
    {lead first : List Char} {others : List (List Char)} (hlead : AllBlank lead)
    (h : ∀ text ∈ first :: others, (StartsSolid text ∧ EndsSolid text) ∧ separator ∉ text) :
    (pieces separator (lead ++ [' ', separator, ' '].intercalate (first :: others))).map trimmed =
      first :: others := by
  induction others generalizing lead first with
  | nil =>
    obtain ⟨⟨starts, ends⟩, absent⟩ := h first List.mem_cons_self
    have whole : separator ∉ lead ++ first := by simp [hlead.not_mem solid, absent]
    have alone := trimmed_between hlead starts ends allBlank_nil
    rw [List.append_nil] at alone
    rw [List.intercalate_singleton, pieces_of_not_mem whole, List.map_singleton, alone]
  | cons second others ih =>
    obtain ⟨⟨⟨starts, ends⟩, absent⟩, later⟩ := List.forall_mem_cons.mp h
    have front : separator ∉ lead ++ (first ++ [' ']) := by
      simp [hlead.not_mem solid, absent, allBlank_space.not_mem solid]
    have divided : lead ++ [' ', separator, ' '].intercalate (first :: second :: others) =
        (lead ++ (first ++ [' '])) ++
          separator :: ([' '] ++ [' ', separator, ' '].intercalate (second :: others)) := by
      simp [List.intercalate_cons_cons]
    rw [divided, pieces_append front, List.map_cons,
      trimmed_between hlead starts ends allBlank_space, ih allBlank_space later]

theorem splitList_intercalate {separator : Char} {parts : List String}
    (solid : isBlank separator = false) (h : ∀ part ∈ parts, IsPart separator part) :
    splitList separator ((String.ofList [' ', separator, ' ']).intercalate parts) = parts := by
  cases parts with
  | nil => rfl
  | cons first others =>
    have texts : ∀ text ∈ first.toList :: others.map String.toList,
        (StartsSolid text ∧ EndsSolid text) ∧ separator ∉ text := by
      rw [← List.map_cons]
      intro text mem
      obtain ⟨part, listed, rfl⟩ := List.mem_map.mp mem
      exact ⟨(h part listed).1.solid, (h part listed).2⟩
    have read := map_trimmed_pieces solid allBlank_nil texts
    rw [List.nil_append] at read
    rw [splitList, String.toList_intercalate, String.toList_ofList, List.map_cons, read,
      List.filter_eq_self.mpr]
    · simp
    · intro text mem
      exact decide_eq_true (texts text mem).1.1.ne_nil

end PlatformGate.Text
