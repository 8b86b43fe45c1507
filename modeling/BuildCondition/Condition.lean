import BuildCondition.Expr.Evaluation
import BuildCondition.Expr.Parser

/-!
# Conditions

A condition is a text. An empty one holds. Any other is put together and evaluated, and every
failure tells the condition and where it was written.
-/

namespace BuildCondition.Condition

/-- The expression that a condition is. -/
def parse (mode : Mode) (limit : Nat) (place : Location) (condition : String) :
    Except Failure Expr :=
  (Expr.parse mode limit condition).mapError fun f => f.withSource condition place

/-- Whether a condition holds. -/
def evaluate (mode : Mode) (limit : Nat) (place : Location) (condition : String) : Asking Bool :=
  if condition = "" then .ok true
  else
    match parse mode limit place condition with
    | .ok e => e.evaluate.mapFailure fun f => f.withSource condition place
    | .error f => .fail f

end BuildCondition.Condition
