import BuildCondition.Expr.Evaluation
import BuildCondition.Proofs.Asking
import BuildCondition.Proofs.Except
import BuildCondition.Proofs.Relocation

/-!
# Evaluation

Negations and chains have the truth values of their operands in them, and comparisons their values
(§1). An expression that stands somewhere else asks the same questions and has the same value. If it
fails, the failure is the same, apart from its position (§2).
-/

namespace BuildCondition

/-! ## §1  Operands -/

namespace Expr

open Asking

theorem evaluate_not (n : Nat) (e : Expr) : (not n e).evaluate = e.evaluate.map fun b => !b := by
  show ((e.evaluate.map fun b => Value.bool !b).bind fun v => truthOf n v) = _
  rw [map_bind]
  rfl

/-- The truth value of the operands of a chain behind the first. -/
def othersTruth (op : Connective) : List Expr → Asking Bool
  | [] => .ok (!op.decisive)
  | e :: es =>
      e.evaluate.bind fun b => if b = op.decisive then .ok b else othersTruth op es

/-- The last operand of a chain tells what the chain is. -/
theorem othersTruth_singleton (op : Connective) (e : Expr) : othersTruth op [e] = e.evaluate := by
  have hlast : (fun b => if b = op.decisive then ok b else ok !op.decisive) = ok := by
    funext b
    cases op <;> cases b <;> rfl
  rw [othersTruth, othersTruth, hlast, bind_ok]

theorem settled_bind_truthOf (op : Connective) (b : Bool) (n : Nat) (more : Asking Value) :
    ((if b = op.decisive then ok (Value.bool b) else more).bind fun v => truthOf n v) =
      if b = op.decisive then .ok b else more.bind fun v => truthOf n v := by
  split <;> rfl

theorem chainValue_bind_truthOf (op : Connective) (n : Nat) (es : List Expr) :
    ((chainValue op es).bind fun v => truthOf n v) = othersTruth op es := by
  induction es with
  | nil => rfl
  | cons e es ih =>
      rw [chainValue, bind_assoc]
      simp only [settled_bind_truthOf, ih]
      rfl

theorem evaluate_chain (op : Connective) (first : Expr) (others : List Expr) :
    (chain op first others).evaluate =
      first.evaluate.bind fun b => if b = op.decisive then .ok b else othersTruth op others := by
  rw [evaluate, value, bind_assoc]
  simp only [settled_bind_truthOf, chainValue_bind_truthOf]
  rfl

section Comparisons

variable {state : BuildState} {left right : Expr} {v w : Value}

/-- Once its operands have their values, a comparison is what these make of it. -/
theorem result_value_comparison (op : Comparison) (hv : left.value.result state = .ok v)
    (hw : right.value.result state = .ok w) :
    (comparison op left right).value.result state =
      (Operand.compare op (asOperand left v) (asOperand right w)).map .bool := by
  rw [value, result_bind, hv]
  show ((right.value).bind _).result state = _
  rw [result_bind, hw]
  rfl

theorem result_evaluate_comparison (op : Comparison) (hv : left.value.result state = .ok v)
    (hw : right.value.result state = .ok w) :
    (comparison op left right).evaluate.result state =
      Operand.compare op (asOperand left v) (asOperand right w) := by
  rw [evaluate, result_bind, result_value_comparison op hv hw]
  cases Operand.compare op (asOperand left v) (asOperand right w) <;> rfl

end Comparisons

end Expr

/-! ## §2  Other places -/

/-- A failure wherever it is. -/
def Failure.anywhere (f : Failure) : Failure :=
  { f with position := 0 }

theorem Failure.anywhere_placedAt (f : Failure) (n : Nat) :
    (f.placedAt n).anywhere = f.anywhere := by
  unfold Failure.placedAt
  split <;> rfl

namespace Operand

/-- The same operand somewhere else. -/
def movedTo (o : Operand) (n : Nat) : Operand :=
  { o with offset := n }

variable (left right : Operand) (m n : Nat)

@[simp] theorem sameText_movedTo :
    (left.movedTo m).sameText (right.movedTo n) = left.sameText right := rfl

@[simp] theorem versionOrder?_movedTo :
    (left.movedTo m).versionOrder? (right.movedTo n) = left.versionOrder? right := rfl

@[simp] theorem number?_movedTo : (left.movedTo m).number? = left.number? := rfl

@[simp] theorem isComparable_movedTo : (left.movedTo m).isComparable = left.isComparable := rfl

theorem anywhere_blamed_movedTo : (left.movedTo m).blamed.anywhere = left.blamed.anywhere := rfl

theorem order_movedTo :
    ((left.movedTo m).order (right.movedTo n)).mapError Failure.anywhere =
      (left.order right).mapError Failure.anywhere := by
  unfold order
  rw [versionOrder?_movedTo, number?_movedTo, number?_movedTo, isComparable_movedTo]
  split
  · rfl
  · split
    · rfl
    · rw [mapError_error, mapError_error]
      split
      · rw [anywhere_blamed_movedTo]
      · rw [anywhere_blamed_movedTo]

theorem compare_movedTo (op : Comparison) :
    (compare op (left.movedTo m) (right.movedTo n)).mapError Failure.anywhere =
      (compare op left right).mapError Failure.anywhere := by
  unfold compare
  rw [sameText_movedTo]
  split
  · rfl
  · rw [mapError_map, mapError_map, order_movedTo]

end Operand

namespace Expr

open Asking

@[simp] theorem written?_relocate (f : Nat → Nat) (e : Expr) :
    (e.relocate f).written? = e.written? := by
  cases e <;> rfl

/-- Two evaluations that differ at most in the position of their failures. -/
def SameAnywhere {α : Type} (a b : Asking α) : Prop :=
  a.mapFailure Failure.anywhere = b.mapFailure Failure.anywhere

theorem truthOf_anywhere (m n : Nat) (v : Value) : SameAnywhere (truthOf m v) (truthOf n v) := by
  unfold SameAnywhere truthOf
  cases v.asBool? <;> rfl

theorem call_anywhere (m n : Nat) (name : String) (vs : List Value) :
    SameAnywhere (Asking.call m name vs) (Asking.call n name vs) := by
  show Asking.ask _ _ = Asking.ask _ _
  congr 1
  funext answer
  rw [mapFailure_done, mapFailure_done]
  cases answer with
  | ok v => rfl
  | error f =>
      simp only [mapError_error, Failure.anywhere_placedAt]

theorem SameAnywhere.bind {α β : Type} {a b : Asking α} {next next' : α → Asking β}
    (h : SameAnywhere a b) (hnext : ∀ x, SameAnywhere (next x) (next' x)) :
    SameAnywhere (a.bind next) (b.bind next') :=
  mapFailure_bind_congr h hnext

theorem SameAnywhere.map {α β : Type} {a b : Asking α} (h : SameAnywhere a b) (g : α → β) :
    SameAnywhere (a.map g) (b.map g) :=
  h.bind fun _ => rfl

theorem SameAnywhere.ite {α : Type} {c : Prop} [Decidable c] {a a' b b' : Asking α}
    (ha : SameAnywhere a a') (hb : SameAnywhere b b') :
    SameAnywhere (if c then a else b) (if c then a' else b') := by
  split
  · exact ha
  · exact hb

theorem compare_anywhere (op : Comparison) (left right : Expr) (f : Nat → Nat) (v w : Value) :
    SameAnywhere
      (.done ((Operand.compare op (asOperand (left.relocate f) v)
        (asOperand (right.relocate f) w)).map Value.bool))
      (.done ((Operand.compare op (asOperand left v) (asOperand right w)).map Value.bool)) := by
  have hmoved : ∀ (e : Expr) v, asOperand (e.relocate f) v =
      (asOperand e v).movedTo (e.relocate f).offset := by
    intro e v
    rw [asOperand, written?_relocate]
    rfl
  unfold SameAnywhere
  rw [hmoved, hmoved, mapFailure_done, mapFailure_done, mapError_map, mapError_map,
    Operand.compare_movedTo]

mutual

/-- The value of an expression does not depend on where it stands. -/
theorem value_relocate (f : Nat → Nat) : ∀ e : Expr, SameAnywhere (e.relocate f).value e.value
  | literal _ _ _ | template _ _ | reference _ _ => rfl
  | call _ name arguments => (values_relocate f arguments).bind fun vs => call_anywhere _ _ name vs
  | not _ e => ((value_relocate f e).bind fun v => truthOf_anywhere _ _ v).map _
  | comparison op left right =>
      (value_relocate f left).bind fun v => (value_relocate f right).bind fun w =>
        compare_anywhere op left right f v w
  | chain op first others =>
      ((value_relocate f first).bind fun v => truthOf_anywhere _ _ v).bind fun _ =>
        .ite rfl (chainValue_relocate f op others)

theorem values_relocate (f : Nat → Nat) : ∀ es : List Expr,
    SameAnywhere (values (relocateAll f es)) (values es)
  | [] => rfl
  | e :: es => (value_relocate f e).bind fun _ => (values_relocate f es).map _

theorem chainValue_relocate (f : Nat → Nat) (op : Connective) : ∀ es : List Expr,
    SameAnywhere (chainValue op (relocateAll f es)) (chainValue op es)
  | [] => rfl
  | e :: es =>
      ((value_relocate f e).bind fun v => truthOf_anywhere _ _ v).bind fun _ =>
        .ite rfl (chainValue_relocate f op es)

end

theorem evaluate_relocate (f : Nat → Nat) (e : Expr) :
    SameAnywhere (e.relocate f).evaluate e.evaluate :=
  (value_relocate f e).bind fun v => truthOf_anywhere _ _ v

end Expr

end BuildCondition
