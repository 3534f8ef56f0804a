import PlatformGate.Cfg
import PlatformGate.Location
import PlatformGate.UsageError

/-!
The platforms that an option block leaves, and the guard that selects them. Exclusion wins over
inclusion, and neither the order nor the repetition of groups has any effect.
-/

namespace PlatformGate

def Group.ofKeywords (keywords : List String) : Except UsageError (List Group) :=
  keywords.mapM fun keyword =>
    match ofKeyword? keyword with
    | some group => .ok group
    | none => .error (.unknownGroup keyword)

structure Resolution where
  platforms : List Platform
  guard : String
  diagnostic : Option Diagnostic
  deriving DecidableEq, Repr

namespace Resolution

def emptyMessage : String :=
  "Configuration excludes all platforms: 'include' and 'exclude' cancel each other out"

/-- Removes the excluded groups from the included ones. No platform left is a problem, reported
at the given location. -/
def ofGroups (included excluded : List Group) (location : Location) : Resolution :=
  let platforms := (Group.union included).filter fun p => !(Group.union excluded).contains p
  { platforms
    guard := renderGuard platforms
    diagnostic := if platforms.isEmpty then some ⟨emptyMessage, location⟩ else none }

def ofKeywords (included excluded : List String) (location : Location) :
    Except UsageError Resolution := do
  return ofGroups (← Group.ofKeywords included) (← Group.ofKeywords excluded) location

theorem mem_ofGroups {included excluded : List Group} {location : Location}
    {platform : Platform} :
    platform ∈ (ofGroups included excluded location).platforms ↔
      (∃ group ∈ included, platform ∈ group.platforms) ∧
        ¬∃ group ∈ excluded, platform ∈ group.platforms := by
  simp only [ofGroups, List.mem_filter, Bool.not_eq_true', ← Group.mem_union,
    List.contains_eq_mem, decide_eq_false_iff_not]

end Resolution

end PlatformGate
