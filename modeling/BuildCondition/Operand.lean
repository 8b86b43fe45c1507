import BuildCondition.Failure
import BuildCondition.Operator
import BuildCondition.Text.Lowercase
import BuildCondition.Value

/-!
# Comparing operands

An operand of a comparison is a value, and its source text if it is written down in the
condition. Source text counts before the value: `1.10` and `1.1` are different texts and
different versions, though the same number.

Equality compares texts without regard to letter case. The relational comparisons order two
versions; if one of the operands is none, they order two numbers; if one of them is no number,
they fail and blame an operand.
-/

namespace BuildCondition

/-- A value in a comparison, where it comes from, and its source text if it is a literal. -/
structure Operand where
  offset : Nat
  value : Value
  written : Option String

namespace Operand

/-- The text of an operand. -/
def text (o : Operand) : String :=
  o.written.getD o.value.asText

/-- The version that an operand is, if it is one. -/
def version? (o : Operand) : Option Version :=
  match o.written with
  | some s => Version.read? s.toList
  | none => o.value.asVersion?

/-- The number that an operand is, if it is one. -/
def number? (o : Operand) : Option Binary64 :=
  o.value.asNumber?

/-- An operand that is a number or a version. -/
def isComparable (o : Operand) : Bool :=
  o.number?.isSome || o.version?.isSome

/-- The failure of a comparison that an operand is to blame for. -/
def blamed (o : Operand) : Failure :=
  Failure.foundAt .notComparable (o.offset + 1) o.value.asText

/-- Whether two operands have the same text, letter case apart. -/
def sameText (left right : Operand) : Bool :=
  Text.lower left.text == Text.lower right.text

/-- The order of two versions. -/
def versionOrder? (left right : Operand) : Option Ordering :=
  match left.version?, right.version? with
  | some v, some w => some (v.compare w)
  | _, _ => none

/-- The order of two operands, if they have one; the numbers among them may be unordered. -/
def order (left right : Operand) : Except Failure (Option Ordering) :=
  match left.versionOrder? right with
  | some o => .ok (some o)
  | none =>
      match left.number?, right.number? with
      | some x, some y => .ok (x.compare? y)
      | _, _ => .error (if left.isComparable then right.blamed else left.blamed)

/-- What a comparison says about two operands. -/
def compare (op : Comparison) (left right : Operand) : Except Failure Bool :=
  if op.isEquality then .ok (left.sameText right == (op == .equal))
  else (left.order right).map fun o => o.any op.accepts

end Operand

end BuildCondition
