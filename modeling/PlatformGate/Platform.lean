/-!
Target platforms and the groups that option blocks name them by. The vocabulary is closed: five
keywords, of which three stand for one platform each.
-/

namespace PlatformGate

inductive Platform where
  | linux
  | macos
  | windows
  deriving DecidableEq, Repr

namespace Platform

def all : List Platform := [linux, macos, windows]

def name : Platform → String
  | linux => "linux"
  | macos => "macos"
  | windows => "windows"

def aliasSuffix : Platform → String
  | linux => "Linux"
  | macos => "MacOS"
  | windows => "Windows"

def moduleName (platform : Platform) : String := platform.name

def ofName? (name : String) : Option Platform := all.find? (·.name == name)

theorem mem_all (platform : Platform) : platform ∈ all := by
  cases platform <;> decide

end Platform

inductive Group where
  | linux
  | macos
  | windows
  | posix
  | all
  deriving DecidableEq, Repr

namespace Group

def table : List Group := [linux, macos, windows, posix, all]

/-- Every group, in the order error messages list them. -/
def suggested : List Group := [all, posix, linux, macos, windows]

def sorted : List Group := [all, linux, macos, posix, windows]

def keyword : Group → String
  | linux => "linux"
  | macos => "macos"
  | windows => "windows"
  | posix => "posix"
  | all => "all"

def platforms : Group → List Platform
  | linux => [.linux]
  | macos => [.macos]
  | windows => [.windows]
  | posix => [.linux, .macos]
  | all => Platform.all

def ofKeyword? (keyword : String) : Option Group := table.find? (·.keyword == keyword)

def normalize (groups : List Group) : List Group := sorted.filter groups.contains

def union (groups : List Group) : List Platform :=
  Platform.all.filter fun platform => groups.any (·.platforms.contains platform)

theorem mem_normalize {group : Group} {groups : List Group} :
    group ∈ normalize groups ↔ group ∈ groups := by
  have h : group ∈ sorted := by cases group <;> decide
  simp [normalize, h]

theorem mem_union {platform : Platform} {groups : List Group} :
    platform ∈ union groups ↔ ∃ group ∈ groups, platform ∈ group.platforms := by
  simp [union, Platform.mem_all]

end Group

end PlatformGate
