import BuildCondition.Bag
import BuildCondition.Condition
import BuildCondition.Settings

/-!
# Conditions under settings

An engine is settings that have passed their check.
-/

namespace BuildCondition

/-- Settings that can be used. -/
structure Engine where
  settings : Settings
  usable : settings.check = .ok ()

namespace Engine

/-- Checks settings. -/
def ofSettings (s : Settings) : Except SettingsError Engine :=
  match h : s.check with
  | .ok () => .ok ⟨s, h⟩
  | .error e => .error e

/-- The functions that conditions may call. -/
def functions (engine : Engine) : Except SettingsError FunctionTable :=
  engine.settings.functions

/-- The expression that a condition is. -/
def parse (engine : Engine) (place : Location) (condition : String) : Except Failure Expr :=
  Condition.parse engine.settings.mode engine.settings.maxDepth place condition

/-- Whether a condition holds. -/
def evaluate (engine : Engine) (place : Location) (condition : String) : Asking Bool :=
  Condition.evaluate engine.settings.mode engine.settings.maxDepth place condition

end Engine

end BuildCondition
