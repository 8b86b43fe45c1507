import BuildCondition.Bag
import BuildCondition.Condition
import BuildCondition.Proofs.Expr.Evaluation

/-!
# Operands that cannot be compared

A relational comparison looks for one reading that both operands have. It reads them as versions if
both are, or else as numbers if both are, and fails if there is no such reading (§1). Then it blames
the second operand if the first one is a version or a number by itself, and the first one if it is
neither. What is blamed is no number, with one exception. A version that is no number, like `1.2.3`,
and a number that is no version, like `-1`, have no reading in common, though nothing is wrong with
either of them. If they stand in this order it is the number that is blamed (§2).
-/

namespace BuildCondition

namespace Operand

variable {op : Comparison} {left right : Operand} {f : Failure}

/-! ## §1  Readings in common -/

/-- Two operands are not both versions, and not both numbers. -/
structure Incomparable (left right : Operand) : Prop where
  versions : ¬(left.version?.isSome ∧ right.version?.isSome)
  numbers : ¬(left.number?.isSome ∧ right.number?.isSome)

theorem versionOrder?_eq_none_iff :
    left.versionOrder? right = none ↔ ¬(left.version?.isSome ∧ right.version?.isSome) := by
  unfold versionOrder?
  cases left.version? <;> cases right.version? <;> simp

theorem order_of_incomparable (h : left.Incomparable right) :
    left.order right = .error (if left.isComparable then right.blamed else left.blamed) := by
  rw [order, versionOrder?_eq_none_iff.mpr h.versions]
  cases hleft : left.number? with
  | none => rfl
  | some x =>
      cases hright : right.number? with
      | none => rfl
      | some y =>
          refine absurd ?_ h.numbers
          rw [hleft, hright]
          exact ⟨rfl, rfl⟩

theorem order_of_not_incomparable (h : ¬left.Incomparable right) :
    ∃ o, left.order right = .ok o := by
  rw [order]
  cases hversions : left.versionOrder? right with
  | some o => exact ⟨_, rfl⟩
  | none =>
      have hnumbers : left.number?.isSome ∧ right.number?.isSome :=
        Decidable.byContradiction fun hnone =>
          h ⟨versionOrder?_eq_none_iff.mp hversions, hnone⟩
      obtain ⟨x, hx⟩ := Option.isSome_iff_exists.mp hnumbers.1
      obtain ⟨y, hy⟩ := Option.isSome_iff_exists.mp hnumbers.2
      rw [hx, hy]
      exact ⟨_, rfl⟩

theorem compare_eq_error_iff (hop : op.isEquality = false) : compare op left right = .error f ↔
    left.Incomparable right ∧ f = if left.isComparable then right.blamed else left.blamed := by
  rw [compare, hop, if_neg Bool.false_ne_true, map_eq_error]
  by_cases h : left.Incomparable right
  · rw [order_of_incomparable h, Except.error.injEq, eq_comm, and_iff_right h]
  · obtain ⟨o, ho⟩ := order_of_not_incomparable h
    rw [ho]
    exact ⟨nofun, fun hf => absurd hf.1 h⟩

/-! ## §2  The operand that is blamed -/

/-- A version that is no number, and a number that is no version. -/
structure Mismatched (left right : Operand) : Prop where
  version : left.version?.isSome
  notNumber : left.number? = none
  number : right.number?.isSome
  notVersion : right.version? = none

/-- The second operand is blamed if it is no number, or if the two are mismatched. -/
theorem Incomparable.number?_right (h : left.Incomparable right) (hleft : left.isComparable) :
    right.number? = none ↔ ¬left.Mismatched right := by
  constructor
  · intro hnone hmismatched
    have hnumber := hmismatched.number
    rw [hnone] at hnumber
    cases hnumber
  · intro hmatched
    cases hright : right.number? with
    | none => rfl
    | some y =>
        have hnumber : right.number?.isSome := Option.isSome_iff_exists.mpr ⟨y, hright⟩
        -- with a number on the right, the left one can only be a version
        have hnotNumber : left.number? = none :=
          Option.not_isSome_iff_eq_none.mp fun hsome => h.numbers ⟨hsome, hnumber⟩
        have hversion : left.version?.isSome := by
          rw [isComparable, hnotNumber] at hleft
          exact hleft
        have hnotVersion : right.version? = none :=
          Option.not_isSome_iff_eq_none.mp fun hsome => h.versions ⟨hversion, hsome⟩
        exact absurd ⟨hversion, hnotNumber, hnumber, hnotVersion⟩ hmatched

/-- The first operand is blamed if it is no number. -/
theorem number?_left (hleft : ¬left.isComparable) :
    left.number? = none ∧ ¬left.Mismatched right := by
  rw [isComparable, Bool.or_eq_true, not_or] at hleft
  exact ⟨Option.not_isSome_iff_eq_none.mp hleft.1, fun h => hleft.2 h.version⟩

end Operand

namespace Expr

variable {op : Comparison} {left right : Expr} {v w : Value} {state : BuildState}

/-- **A relational comparison fails if its operands have no reading in common, and blames one that
is no number**, unless they are a version and a number that are mismatched. -/
theorem comparison_fails_iff (hop : op.isEquality = false)
    (hv : left.value.result state = .ok v) (hw : right.value.result state = .ok w) :
    ((∃ f, (comparison op left right).evaluate.result state = .error f) ↔
        (asOperand left v).Incomparable (asOperand right w)) ∧
      ∀ f, (comparison op left right).evaluate.result state = .error f →
        f.cause = .notComparable ∧
          ∃ o, (o = asOperand left v ∨ o = asOperand right w) ∧
            f.position = o.offset + 1 ∧ f.found? = some o.value.asText ∧
            (o.value.asNumber? = none ↔ ¬(asOperand left v).Mismatched (asOperand right w)) := by
  rw [result_evaluate_comparison op hv hw]
  simp only [Operand.compare_eq_error_iff hop]
  constructor
  · exact ⟨fun ⟨_, h, _⟩ => h, fun h => ⟨_, h, rfl⟩⟩
  · rintro f ⟨h, rfl⟩
    by_cases hleft : (asOperand left v).isComparable
    · rw [if_pos hleft]
      exact ⟨rfl, _, .inr rfl, rfl, rfl, h.number?_right hleft⟩
    · rw [if_neg hleft]
      obtain ⟨hnone, hmatched⟩ : (asOperand left v).number? = none ∧
          ¬(asOperand left v).Mismatched (asOperand right w) := Operand.number?_left hleft
      exact ⟨rfl, _, .inl rfl, rfl, rfl, iff_of_true hnone hmatched⟩

/-- A word is blamed where a number is compared with it. -/
theorem comparison_fails_iff_word :
    Comparison.less.isEquality = false ∧
      (Expr.literal 0 (.text "-5") "-5").value.result Bag.empty.state = .ok (.text "-5") ∧
      (Expr.literal 7 (.text "abc") "abc").value.result Bag.empty.state = .ok (.text "abc") ∧
      ∃ f, (comparison .less (.literal 0 (.text "-5") "-5")
          (.literal 7 (.text "abc") "abc")).evaluate.result Bag.empty.state = .error f ∧
        f.cause = .notComparable ∧ f.position = 8 ∧ f.found? = some "abc" := by
  have hfails := @comparison_fails_iff .less (.literal 0 (.text "-5") "-5")
    (.literal 7 (.text "abc") "abc") _ _ Bag.empty.state (by rfl) (by rfl) (by rfl)
  obtain ⟨f, hf⟩ := hfails.1.mpr ⟨by decide +kernel, by decide +kernel⟩
  obtain ⟨hcause, o, ho, hposition, hfound, hnumber⟩ := hfails.2 f hf
  have hmatched : ¬(asOperand (.literal 0 (.text "-5") "-5") (.text "-5")).Mismatched
      (asOperand (.literal 7 (.text "abc") "abc") (.text "abc")) :=
    fun h => absurd h.notNumber (by decide +kernel)
  rcases ho with rfl | rfl
  · exact absurd (hnumber.mpr hmatched) (by decide +kernel)
  · exact ⟨rfl, rfl, rfl, f, hf, hcause, hposition, hfound⟩

/-- The number is blamed that stands behind a version which is no number, and not that version. -/
theorem number_is_blamed :
    Expr.parse .everything 50 "'1.2.3' < '-1'" =
        .ok (.comparison .less (.literal 0 (.text "1.2.3") "1.2.3")
          (.literal 10 (.text "-1") "-1")) ∧
      (Condition.evaluate .everything 50 .unknown "'1.2.3' < '-1'").result Bag.empty.state =
        .error ⟨.notComparable, .found "-1", 11, "'1.2.3' < '-1'", .unknown⟩ ∧
      (Value.text "1.2.3").asNumber? = none ∧ (Value.text "-1").asNumber?.isSome = true :=
  ⟨by rfl, by rfl, by decide +kernel, by decide +kernel⟩

end Expr

end BuildCondition
