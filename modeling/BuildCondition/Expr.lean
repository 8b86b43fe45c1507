import BuildCondition.Lexeme
import BuildCondition.Value

/-!
# Expressions

What a condition says, once it has been put together. Parentheses leave no trace, and a
chain of `and` or of `or` is a single expression however long it is, so that only parentheses,
arguments and `!` make an expression deeper.

Every expression knows how many characters stand before it in the condition. Comparisons and chains
start where their first operand starts.
-/

namespace BuildCondition

/-- A condition, or an operand of one. -/
inductive Expr where
  /-- a value that is written down, with its source text -/
  | literal (offset : Nat) (value : Value) (text : String)
  /-- a quoted text with references or escapes in it -/
  | template (offset : Nat) (text : String)
  | reference (offset : Nat) (r : Reference)
  | call (offset : Nat) (name : String) (arguments : List Expr)
  | not (offset : Nat) (operand : Expr)
  | comparison (op : Comparison) (left right : Expr)
  | chain (op : Connective) (first : Expr) (others : List Expr)

namespace Expr

/-- How many characters stand before an expression. -/
def offset : Expr → Nat
  | literal n _ _ => n
  | template n _ => n
  | reference n _ => n
  | call n _ _ => n
  | not n _ => n
  | comparison _ left _ => left.offset
  | chain _ first _ => first.offset

/-- Operands joined by a connective; a single one stays as it is. -/
def joined (op : Connective) (first : Expr) : List Expr → Expr
  | [] => first
  | second :: others => chain op first (second :: others)

/-! ## §1  Operands that are one lexeme -/

/-- A bare word: a truth value, or a text. -/
def ofWord (offset : Nat) (s : String) : Expr :=
  match Value.readBool? s.toList with
  | some b => literal offset (.bool b) s
  | none => literal offset (.text s) s

/-- A numeral: a number, or a text if it has too many points or digits for one. -/
def ofNumeral (offset : Nat) (s : String) : Expr :=
  match Value.readNumber? s.toList with
  | some x => literal offset (.number x) s
  | none => literal offset (.text s) s

/-- A quoted text: a template if there is something to fill in, otherwise a text as it is. -/
def ofQuoted (offset : Nat) (s : String) : Expr :=
  if Lexeme.hasReference s.toList then template offset s else literal offset (.text s) s

end Expr

end BuildCondition
