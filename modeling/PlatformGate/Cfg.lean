import PlatformGate.Platform

/-!
Predicates of conditional compilation, as far as guards need them: the test of the target, and the
disjunction of such tests. What a predicate means is said for every target, also for one that is
none of the known platforms.
-/

namespace PlatformGate

inductive Cfg where
  | targetOs (value : String)
  | anyTargetOs (values : List String)
  deriving DecidableEq, Repr

namespace Cfg

def test (value : String) : String := "target_os = \"" ++ value ++ "\""

def render : Cfg → String
  | targetOs value => test value
  | anyTargetOs values => "any(" ++ ", ".intercalate (values.map test) ++ ")"

def Holds (target : String) : Cfg → Prop
  | targetOs value => target = value
  | anyTargetOs values => target ∈ values

instance (target : String) (cfg : Cfg) : Decidable (cfg.Holds target) :=
  match cfg with
  | targetOs value => inferInstanceAs (Decidable (target = value))
  | anyTargetOs values => inferInstanceAs (Decidable (target ∈ values))

/-- The predicate that holds on the given platforms. One platform needs no disjunction, and the
disjunction of none never holds. -/
def ofPlatforms : List Platform → Cfg
  | [platform] => targetOs platform.name
  | platforms => anyTargetOs (platforms.map Platform.name)

theorem holds_ofPlatforms {target : String} {platforms : List Platform} :
    (ofPlatforms platforms).Holds target ↔ ∃ platform ∈ platforms, platform.name = target := by
  unfold ofPlatforms
  split
  next platform => simp [Holds, eq_comm]
  next => simp [Holds]

end Cfg

def renderGuard (platforms : List Platform) : String := (Cfg.ofPlatforms platforms).render

def renderCfg (guard : String) : String := "#[cfg(" ++ guard ++ ")]"

end PlatformGate
