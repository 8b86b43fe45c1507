import BuildCondition.Expr
import BuildCondition.Operand
import BuildCondition.Template

/-!
# Evaluating expressions

Operands are evaluated from left to right, and a chain only as far as it takes to settle it.
-/

namespace BuildCondition.Expr

/-- The source text of a literal. -/
def written? : Expr → Option String
  | literal _ _ s => some s
  | _ => none

/-- An expression and its value as an operand of a comparison. -/
def asOperand (e : Expr) (v : Value) : Operand :=
  ⟨e.offset, v, e.written?⟩

/-- The truth value of what stands at `offset`, which has to have one. -/
def truthOf (offset : Nat) (value : Value) : Asking Bool :=
  match value.asBool? with
  | some b => .ok b
  | none => .fail (Failure.foundAt .notBoolean (offset + 1) value.asText)

mutual

/-- The value of an expression. -/
def value : Expr → Asking Value
  | literal _ v _ => .ok v
  | template _ s => (Template.fill s).map .text
  | reference _ r => r.fill.map .text
  | call offset name arguments =>
      (values arguments).bind fun vs => Asking.call (offset + 1) name vs
  | not _ e => ((value e).bind fun v => truthOf e.offset v).map fun b => .bool !b
  | comparison op left right =>
      (value left).bind fun v =>
        (value right).bind fun w =>
          .done ((Operand.compare op (asOperand left v) (asOperand right w)).map .bool)
  | chain op first others =>
      ((value first).bind fun v => truthOf first.offset v).bind fun b =>
        if b = op.decisive then .ok (.bool b) else chainValue op others

/-- The values of arguments, until one fails. -/
def values : List Expr → Asking (List Value)
  | [] => .ok []
  | e :: es => (value e).bind fun v => (values es).map fun vs => v :: vs

/-- The value of the rest of a chain that is not settled yet. -/
def chainValue (op : Connective) : List Expr → Asking Value
  | [] => .ok (.bool !op.decisive)
  | e :: es =>
      ((value e).bind fun v => truthOf e.offset v).bind fun b =>
        if b = op.decisive then .ok (.bool b) else chainValue op es

end

/-- The truth value of an expression. -/
def evaluate (e : Expr) : Asking Bool :=
  (value e).bind fun v => truthOf e.offset v

end BuildCondition.Expr
