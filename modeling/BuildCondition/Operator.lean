/-!
# Operators

Comparisons and connectives, and how they are written.
-/

namespace BuildCondition

/-- A comparison. Comparisons do not chain. -/
inductive Comparison where
  | equal
  | notEqual
  | less
  | lessOrEqual
  | greater
  | greaterOrEqual
  deriving DecidableEq, Repr

namespace Comparison

def text : Comparison → String
  | equal => "=="
  | notEqual => "!="
  | less => "<"
  | lessOrEqual => "<="
  | greater => ">"
  | greaterOrEqual => ">="

/-- Equality comparisons compare texts; the others compare versions or numbers. -/
def isEquality : Comparison → Bool
  | equal | notEqual => true
  | _ => false

/-- Whether a relational comparison accepts an order. -/
def accepts : Comparison → Ordering → Bool
  | equal, o => o == .eq
  | notEqual, o => o != .eq
  | less, o => o == .lt
  | lessOrEqual, o => o != .gt
  | greater, o => o == .gt
  | greaterOrEqual, o => o != .lt

end Comparison

/-- A connective. A chain of one connective is a single expression. -/
inductive Connective where
  | or
  | and
  deriving DecidableEq, Repr

namespace Connective

def text : Connective → String
  | or => "or"
  | and => "and"

/-- The truth value of an operand that settles a chain. -/
def decisive : Connective → Bool
  | or => true
  | and => false

end Connective

end BuildCondition
