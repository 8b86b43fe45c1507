/-!
# Modes

Where a condition may not look at items, only properties are allowed in it.
-/

namespace BuildCondition

/-- What a condition may refer to. -/
inductive Mode where
  /-- properties, item lists and item metadata -/
  | everything
  /-- properties only -/
  | propertiesOnly
  deriving DecidableEq, Repr

end BuildCondition
