import Mathlib.Data.List.Sort
import Mathlib.Data.String.Basic
import PlatformGate.Proofs.Cfg
import PlatformGate.Proofs.Options.Block

/-! What an option text selects. Only the groups that the text names in its two kinds of lists
count; the guard holds on the targets they leave, and on no other target. -/

namespace PlatformGate

theorem Platform.name_injective : Function.Injective Platform.name := by
  intro p q h
  cases p <;> cases q <;> first | rfl | exact absurd h (by decide)

theorem Platform.sortedLT_all : (Platform.all.map Platform.name).SortedLT := by
  refine List.sortedLT_iff_pairwise.mpr ?_
  decide

theorem Platform.exists_name {target : String} :
    (∃ platform : Platform, platform.name = target) ↔
      target = "linux" ∨ target = "macos" ∨ target = "windows" := by
  constructor
  · rintro ⟨platform, rfl⟩
    cases platform <;> simp [Platform.name]
  · rintro (rfl | rfl | rfl)
    · exact ⟨.linux, rfl⟩
    · exact ⟨.macos, rfl⟩
    · exact ⟨.windows, rfl⟩

def Group.Contains (group : Group) (target : String) : Prop :=
  ∃ platform ∈ group.platforms, platform.name = target

theorem Group.contains_name {group : Group} {platform : Platform} :
    group.Contains platform.name ↔ platform ∈ group.platforms := by
  constructor
  · rintro ⟨other, mem, same⟩
    exact Platform.name_injective same ▸ mem
  · exact fun mem => ⟨platform, mem, rfl⟩

namespace Resolution

variable {included excluded : List Group} {location : Location}

theorem sortedLT_ofGroups :
    ((ofGroups included excluded location).platforms.map Platform.name).SortedLT := by
  have part : (ofGroups included excluded location).platforms.Sublist Platform.all :=
    List.filter_sublist.trans List.filter_sublist
  exact List.sortedLT_iff_pairwise.mpr
    (Platform.sortedLT_all.pairwise.sublist (part.map Platform.name))

theorem diagnostic_ofGroups {diagnostic : Diagnostic} :
    (ofGroups included excluded location).diagnostic = some diagnostic ↔
      (ofGroups included excluded location).platforms = [] ∧
        diagnostic = ⟨emptyMessage, location⟩ := by
  have shape : (ofGroups included excluded location).diagnostic =
      if (ofGroups included excluded location).platforms.isEmpty
      then some ⟨emptyMessage, location⟩ else none := rfl
  rw [shape]
  generalize (ofGroups included excluded location).platforms = platforms
  cases platforms with
  | nil => simp only [List.isEmpty_nil, if_true, Option.some.injEq, true_and, eq_comm]
  | cons first others => simp

end Resolution

namespace OptionBlock

theorem diagnostic_resolve (block : OptionBlock) :
    block.resolve.diagnostic =
      if block.resolve.platforms = [] then some ⟨Resolution.emptyMessage, block.location⟩
      else none := by
  simp only [resolve, Resolution.ofGroups, List.isEmpty_iff]

/-- The target is a known platform that the text includes and does not exclude. A text that names
no group to include includes every platform. -/
structure Selects (traitsAllowed : Bool) (text target : String) : Prop where
  known : target = "linux" ∨ target = "macos" ∨ target = "windows"
  included : (¬∃ group, TextIncludes traitsAllowed text group) ∨
    ∃ group, TextIncludes traitsAllowed text group ∧ group.Contains target
  kept : ¬∃ group, TextExcludes traitsAllowed text group ∧ group.Contains target

variable {traitsAllowed : Bool} {text : String} {location : Location} {block : OptionBlock}

theorem exists_included (h : parse text traitsAllowed location = .ok block)
    {platform : Platform} :
    (∃ group ∈ block.included, platform ∈ group.platforms) ↔
      (¬∃ group, TextIncludes traitsAllowed text group) ∨
        ∃ group, TextIncludes traitsAllowed text group ∧ group.Contains platform.name := by
  simp only [mem_included h, Group.contains_name]
  constructor
  · rintro ⟨group, named | ⟨-, none⟩, inside⟩
    · exact Or.inr ⟨group, named, inside⟩
    · exact Or.inl none
  · rintro (none | ⟨group, named, inside⟩)
    · exact ⟨.all, Or.inr ⟨rfl, none⟩, platform.mem_all⟩
    · exact ⟨group, Or.inl named, inside⟩

theorem exists_excluded (h : parse text traitsAllowed location = .ok block)
    {platform : Platform} :
    (∃ group ∈ block.excluded, platform ∈ group.platforms) ↔
      ∃ group, TextExcludes traitsAllowed text group ∧ group.Contains platform.name := by
  simp only [mem_excluded h, Group.contains_name]

theorem exists_platform (h : parse text traitsAllowed location = .ok block) {target : String} :
    (∃ platform ∈ block.resolve.platforms, platform.name = target) ↔
      Selects traitsAllowed text target := by
  simp only [resolve, Resolution.mem_ofGroups, exists_included h, exists_excluded h]
  constructor
  · rintro ⟨platform, ⟨included, kept⟩, rfl⟩
    exact ⟨Platform.exists_name.mp ⟨platform, rfl⟩, included, kept⟩
  · rintro ⟨known, included, kept⟩
    obtain ⟨platform, rfl⟩ := Platform.exists_name.mpr known
    exact ⟨platform, ⟨included, kept⟩, rfl⟩

theorem platforms_congr (h : parse text traitsAllowed location = .ok block)
    {flag : Bool} {other : String} {place : Location} {second : OptionBlock}
    (h' : parse other flag place = .ok second)
    (includes : ∀ group, TextIncludes flag other group ↔ TextIncludes traitsAllowed text group)
    (excludes : ∀ group, TextExcludes flag other group ↔ TextExcludes traitsAllowed text group) :
    second.resolve.platforms = block.resolve.platforms := by
  refine List.map_injective_iff.mpr Platform.name_injective
    (Resolution.sortedLT_ofGroups.eq_of_mem_iff Resolution.sortedLT_ofGroups fun target => ?_)
  have same : Selects flag other target ↔ Selects traitsAllowed text target := by
    constructor
    · rintro ⟨known, included, kept⟩
      simp only [includes, excludes] at included kept
      exact ⟨known, included, kept⟩
    · rintro ⟨known, included, kept⟩
      simp only [← includes, ← excludes] at included kept
      exact ⟨known, included, kept⟩
  rw [List.mem_map, List.mem_map]
  exact (exists_platform h').trans (same.trans (exists_platform h).symm)

/-- The guard of an accepted text holds exactly on the targets that the text selects, the platforms
are those targets in name order, and there is a diagnostic exactly if there are none. Nothing else
about the text has any effect. -/
theorem resolve_of_parse (h : parse text traitsAllowed location = .ok block) :
    (∃ cfg, Cfg.ofText? block.resolve.guard = some cfg ∧
      ∀ target, cfg.Holds target ↔ Selects traitsAllowed text target) ∧
    (∀ target, target ∈ block.resolve.platforms.map Platform.name ↔
      Selects traitsAllowed text target) ∧
    (block.resolve.platforms.map Platform.name).SortedLT ∧
    (∀ diagnostic, block.resolve.diagnostic = some diagnostic ↔
      (∀ target, ¬Selects traitsAllowed text target) ∧
        diagnostic = ⟨Resolution.emptyMessage, location⟩) ∧
    ∀ flag other place second, parse other flag place = .ok second →
      (∀ group, TextIncludes flag other group ↔ TextIncludes traitsAllowed text group) →
      (∀ group, TextExcludes flag other group ↔ TextExcludes traitsAllowed text group) →
      second.resolve.platforms = block.resolve.platforms ∧
        second.resolve.guard = block.resolve.guard := by
  have empty : block.resolve.platforms = [] ↔ ∀ target, ¬Selects traitsAllowed text target := by
    simp only [← exists_platform h, List.eq_nil_iff_forall_not_mem]
    exact ⟨fun none target ⟨platform, mem, _⟩ => none platform mem,
      fun none platform mem => none platform.name ⟨platform, mem, rfl⟩⟩
  have place : block.location = location := by
    obtain ⟨clauses, -, rfl⟩ := parse_eq_ok.mp h
    rfl
  refine ⟨⟨_, Cfg.ofText?_renderGuard _, fun target => ?_⟩, fun target => ?_,
    Resolution.sortedLT_ofGroups, fun diagnostic => ?_, ?_⟩
  · exact Cfg.holds_ofPlatforms.trans (exists_platform h)
  · exact List.mem_map.trans (exists_platform h)
  · rw [← empty, ← place]
    exact Resolution.diagnostic_ofGroups
  · intro flag other place second h' includes excludes
    have same := platforms_congr h h' includes excludes
    exact ⟨same, congrArg renderGuard same⟩

theorem textIncludes_iff_mem (h : parse text traitsAllowed location = .ok block)
    (notAll : Group.all ∉ block.included) {group : Group} :
    TextIncludes traitsAllowed text group ↔ group ∈ block.included := by
  rw [mem_included h]
  refine ⟨Or.inl, fun mem => mem.resolve_right ?_⟩
  rintro ⟨rfl, none⟩
  exact notAll ((mem_included h).mpr (Or.inr ⟨rfl, none⟩))

theorem resolve_of_parse_reordered :
    (∀ target, target ∈ ["linux"] ↔ Selects false "exclude(macos), include(posix, posix)" target) ∧
    ∃ second, parse "include(posix),\n exclude( macos )," false ⟨4, 2⟩ = .ok second ∧
      second.resolve.platforms = [.linux] ∧ second.resolve.guard = "target_os = \"linux\"" := by
  have first : parse "exclude(macos), include(posix, posix)" false ⟨1, 1⟩ =
      .ok ⟨[.posix], [.macos], [], ⟨1, 1⟩⟩ := eq_ok_of_toOption (by decide +kernel)
  have second : parse "include(posix),\n exclude( macos )," false ⟨4, 2⟩ =
      .ok ⟨[.posix], [.macos], [], ⟨4, 2⟩⟩ := eq_ok_of_toOption (by decide +kernel)
  obtain ⟨-, targets, -, -, congr⟩ := resolve_of_parse first
  refine ⟨targets, _, second, congr _ _ _ _ second (fun group => ?_) fun group => ?_⟩
  · exact (textIncludes_iff_mem second (by decide)).trans
      (textIncludes_iff_mem first (by decide)).symm
  · exact (mem_excluded second).symm.trans (mem_excluded first)

end OptionBlock

end PlatformGate
