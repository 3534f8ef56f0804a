import Mathlib.Data.List.Forall2
import PlatformGate.Manifest
import PlatformGate.Markup.Token

/-! What is known of an entry that a manifest has been read into: its declaration is of the form
that its kind asks for. -/

namespace PlatformGate

inductive EntryKind.Fits : EntryKind → Declaration → Prop
  | function (decl : Callable) : Fits .function (.callable decl)
  | traitFunction (decl : Callable) : Fits .traitFunction (.callable decl)
  | struct (decl : StructDecl) : Fits .struct (.struct decl)
  | module (decl : ModuleDecl) : Fits .module (.module decl)
  | use (decl : UseDecl) : Fits .use (.use decl)

namespace Manifest

open Markup

theorem map_eq_ok {ε α β : Type} {f : α → β} {x : Except ε α} {value : β} :
    f <$> x = .ok value ↔ ∃ a, x = .ok a ∧ f a = value := by
  cases x with
  | error fault => simp [Functor.map, Except.map]
  | ok a => simp [Functor.map, Except.map]

theorem mapM_eq_ok {ε α β : Type} {read : α → Except ε β} {xs : List α} {ys : List β} :
    xs.mapM read = .ok ys ↔ List.Forall₂ (fun x y => read x = .ok y) xs ys := by
  induction xs generalizing ys with
  | nil => simp [pure, Except.pure, eq_comm]
  | cons x xs ih =>
    rw [List.mapM_cons, List.forall₂_cons_left_iff, bind_eq_ok]
    refine exists_congr fun first => ?_
    constructor
    · rintro ⟨here, h⟩
      obtain ⟨others, later, last⟩ := bind_eq_ok.mp h
      cases last
      exact ⟨others, here, ih.mp later, rfl⟩
    · rintro ⟨others, here, later, rfl⟩
      exact ⟨here, bind_eq_ok.mpr ⟨others, ih.mpr later, rfl⟩⟩

/-- The error of a list is that of its first element that cannot be read. -/
theorem mapM_eq_error {ε α β : Type} {read : α → Except ε β} {xs : List α} {error : ε} :
    xs.mapM read = .error error ↔
      ∃ before x after, xs = before ++ x :: after ∧
        (∀ earlier ∈ before, ∃ value, read earlier = .ok value) ∧ read x = .error error := by
  induction xs with
  | nil => simp [pure, Except.pure]
  | cons x xs ih =>
    rw [List.mapM_cons]
    cases here : read x with
    | error fault =>
      constructor
      · intro h
        cases h
        exact ⟨[], x, xs, rfl, List.forall_mem_nil _, here⟩
      · rintro ⟨before, first, after, split, fine, failed⟩
        cases before with
        | nil =>
          cases split
          cases here.symm.trans failed
          rfl
        | cons earlier before =>
          cases split
          obtain ⟨value, read⟩ := fine x List.mem_cons_self
          cases here.symm.trans read
    | ok value =>
      have later : (xs.mapM read >>= fun values => pure (value :: values)) = .error error ↔
          xs.mapM read = .error error := by
        cases xs.mapM read <;> simp [bind, Except.bind, pure, Except.pure]
      -- The first failure is one of the rest, with the head as one more element before it.
      refine later.trans (ih.trans ⟨?_, ?_⟩)
      · rintro ⟨before, first, after, rfl, fine, failed⟩
        exact ⟨x :: before, first, after, rfl, List.forall_mem_cons.mpr ⟨⟨value, here⟩, fine⟩,
          failed⟩
      · rintro ⟨before, first, after, split, fine, failed⟩
        cases before with
        | nil =>
          cases split
          cases here.symm.trans failed
        | cons earlier before =>
          cases split
          exact ⟨before, first, after, rfl, (List.forall_mem_cons.mp fine).2, failed⟩

theorem exists_of_forall₂ {α β : Type} {R : α → β → Prop} {xs : List α} {ys : List β}
    (h : List.Forall₂ R xs ys) {x : α} (mem : x ∈ xs) : ∃ y ∈ ys, R x y := by
  induction h with
  | nil => cases mem
  | cons here _ ih =>
    rcases List.mem_cons.mp mem with rfl | mem
    · exact ⟨_, List.mem_cons_self, here⟩
    · obtain ⟨y, mem', there⟩ := ih mem
      exact ⟨y, List.mem_cons_of_mem _ mem', there⟩

theorem exists_of_mem_mapM {ε α β : Type} {read : α → Except ε β} {xs : List α} {ys : List β}
    (h : xs.mapM read = .ok ys) {y : β} (mem : y ∈ ys) : ∃ x ∈ xs, read x = .ok y :=
  exists_of_forall₂ (mapM_eq_ok.mp h).flip mem

theorem exists_read_of_mapM {ε α β : Type} {read : α → Except ε β} {xs : List α} {ys : List β}
    (h : xs.mapM read = .ok ys) {x : α} (mem : x ∈ xs) : ∃ y ∈ ys, read x = .ok y :=
  exists_of_forall₂ (mapM_eq_ok.mp h) mem

theorem fits_of_declaration {kind : EntryKind} {element : Element} {location : Location}
    {decl : Declaration} (h : declaration kind element location = .ok decl) : kind.Fits decl := by
  cases kind with
  | function =>
    obtain ⟨decl, -, rfl⟩ := map_eq_ok.mp h
    exact .function decl
  | traitFunction =>
    obtain ⟨decl, -, rfl⟩ := map_eq_ok.mp h
    exact .traitFunction decl
  | struct =>
    obtain ⟨decl, -, rfl⟩ := map_eq_ok.mp h
    exact .struct decl
  | module =>
    obtain ⟨decl, -, rfl⟩ := map_eq_ok.mp h
    exact .module decl
  | use =>
    obtain ⟨decl, -, rfl⟩ := map_eq_ok.mp h
    exact .use decl
  | unknown => cases h

theorem fits_of_entry {element : Element} {read : Entry} (h : entry element = .ok read) :
    read.kind.Fits read.declaration := by
  obtain ⟨location, -, h⟩ := bind_eq_ok.mp h
  split at h
  next => cases h
  next kind _ =>
    obtain ⟨stated, -, h⟩ := bind_eq_ok.mp h
    obtain ⟨decl, declared, last⟩ := bind_eq_ok.mp h
    cases last
    exact fits_of_declaration declared

theorem fits_of_entries {root : Element} {read : List Entry} (h : entries root = .ok read)
    {entry : Entry} (mem : entry ∈ read) : entry.kind.Fits entry.declaration := by
  unfold entries at h
  split at h
  next =>
    obtain ⟨element, -, here⟩ := exists_of_mem_mapM h mem
    exact fits_of_entry here
  next => cases h

end Manifest

end PlatformGate
