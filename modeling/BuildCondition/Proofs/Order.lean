import BuildCondition.Proofs.Operand

/-!
# The relational comparisons of two operands

Two operands are ordered in one of two ways, and which one that is depends on both of them. It is
the same way if they change places, and then the order is reversed (§1). The result of a comparison
needs the values of both operands, whatever the comparison is (§2). So the four relational
comparisons stand or fall together, in both directions, and where they stand they tell the same
order (§3). Only what is not a number is unordered, and no text is read as that.
-/

namespace BuildCondition

/-! ## §1  Orders and their reverses -/

theorem Version.compare_swap (v w : Version) : (v.compare w).swap = w.compare v := by
  simp only [compare, Ordering.swap_then, Nat.compare_swap]

namespace Binary64

theorem compare?_swap (x y : Binary64) : (x.compare? y).map Ordering.swap = y.compare? x := by
  unfold compare?
  cases x.scaled? with
  | none => cases y.scaled? <;> rfl
  | some a =>
      cases y.scaled? with
      | none => rfl
      | some b => exact congrArg some (Int.compare_swap a b)

theorem exists_scaled? {x : Binary64} (h : x ≠ nan) : ∃ a, x.scaled? = some a := by
  cases x with
  | nan => exact absurd rfl h
  | infinity s => exact ⟨_, rfl⟩
  | finite s u fits => exact ⟨_, rfl⟩

theorem exists_compare? {x y : Binary64} (hx : x ≠ nan) (hy : y ≠ nan) :
    ∃ o, x.compare? y = some o := by
  obtain ⟨a, ha⟩ := exists_scaled? hx
  obtain ⟨b, hb⟩ := exists_scaled? hy
  exact ⟨_, by rw [compare?, ha, hb]⟩

theorem ofRatio_ne_nan (negative : Bool) (num den : Nat) : ofRatio negative num den ≠ nan := by
  unfold ofRatio
  simp only []
  split
  · exact nofun
  · split <;> exact nofun

theorem ofDecimal_ne_nan (negative : Bool) (digits : Nat) (exponent : Int) :
    ofDecimal negative digits exponent ≠ nan := by
  unfold ofDecimal
  split <;> exact ofRatio_ne_nan _ _ _

theorem neg_ne_nan {x : Binary64} (h : x ≠ nan) : x.neg ≠ nan := by
  cases x with
  | nan => exact absurd rfl h
  | infinity s => exact nofun
  | finite s u fits => exact nofun

end Binary64

/-- What is read as a number is one. -/
theorem Value.ne_nan_of_readNumber? {cs : List Char} {x : Binary64}
    (h : readNumber? cs = some x) : x ≠ .nan := by
  unfold readNumber? at h
  split at h
  · unfold readHex? at h
    split at h
    · cases h
      exact Binary64.ofRatio_ne_nan _ _ _
    · cases h
  · unfold readDecimal? at h
    simp only [] at h
    split at h
    · cases h
      split
      · exact Binary64.neg_ne_nan (Binary64.ofDecimal_ne_nan _ _ _)
      · exact Binary64.ofDecimal_ne_nan _ _ _
    · cases h

namespace Operand

variable {left right : Operand} {x : Binary64}

theorem ne_nan_of_number? (h : left.number? = some x) (hvalue : left.value ≠ .number .nan) :
    x ≠ .nan := by
  obtain ⟨offset, value, written⟩ := left
  cases value with
  | text s => exact Value.ne_nan_of_readNumber? h
  | number y =>
      rintro rfl
      exact hvalue (congrArg Value.number (Option.some.inj h))
  | bool b => cases h

theorem versionOrder?_swap (left right : Operand) :
    (left.versionOrder? right).map Ordering.swap = right.versionOrder? left := by
  unfold versionOrder?
  cases left.version? with
  | none => cases right.version? <;> rfl
  | some v =>
      cases right.version? with
      | none => rfl
      | some w => exact congrArg some (v.compare_swap w)

/-- Operands that change places are ordered the other way round, or not at all as before. -/
theorem order_swap {o : Option Ordering} (h : left.order right = .ok o) :
    right.order left = .ok (o.map Ordering.swap) := by
  unfold order at h ⊢
  rw [← versionOrder?_swap left right]
  cases hversions : left.versionOrder? right with
  | some p =>
      rw [hversions] at h
      cases h
      rfl
  | none =>
      rw [hversions] at h
      cases hleft : left.number? with
      | none =>
          rw [hleft] at h
          cases h
      | some x =>
          cases hright : right.number? with
          | none =>
              rw [hleft, hright] at h
              cases h
          | some y =>
              rw [hleft, hright] at h
              cases h
              exact congrArg Except.ok (x.compare?_swap y).symm

/-- Operands with a reading in common are ordered. -/
theorem exists_order (h : ¬left.Incomparable right) (hleft : left.value ≠ .number .nan)
    (hright : right.value ≠ .number .nan) : ∃ o, left.order right = .ok (some o) := by
  unfold order
  cases hversions : left.versionOrder? right with
  | some o => exact ⟨o, rfl⟩
  | none =>
      have hnumbers : left.number?.isSome ∧ right.number?.isSome :=
        Decidable.byContradiction fun hnone =>
          h ⟨versionOrder?_eq_none_iff.mp hversions, hnone⟩
      obtain ⟨x, hx⟩ := Option.isSome_iff_exists.mp hnumbers.1
      obtain ⟨y, hy⟩ := Option.isSome_iff_exists.mp hnumbers.2
      obtain ⟨o, ho⟩ := Binary64.exists_compare? (ne_nan_of_number? hx hleft)
        (ne_nan_of_number? hy hright)
      exact ⟨o, by rw [hx, hy]; exact congrArg Except.ok ho⟩

end Operand

/-! ## §2  Comparisons -/

namespace Operand

variable {op : Comparison} {left right : Operand}

/-- What relational comparisons say of operands that are ordered. -/
theorem compare_of_order {o : Ordering} (hop : op.isEquality = false)
    (h : left.order right = .ok (some o)) : compare op left right = .ok (op.accepts o) := by
  rw [compare, hop, if_neg Bool.false_ne_true, h]
  rfl

end Operand

namespace Expr

variable {op : Comparison} {left right : Expr} {state : BuildState} {b : Bool}

/-- A comparison has a result if its operands have values, and they can be compared. -/
theorem result_comparison_eq_ok_iff :
    (comparison op left right).evaluate.result state = .ok b ↔
      ∃ v w, left.value.result state = .ok v ∧ right.value.result state = .ok w ∧
        Operand.compare op (asOperand left v) (asOperand right w) = .ok b := by
  constructor
  · intro h
    rw [evaluate, Asking.result_bind] at h
    obtain ⟨u, hu, _⟩ := bind_eq_ok.mp h
    rw [value, Asking.result_bind] at hu
    obtain ⟨v, hv, hu⟩ := bind_eq_ok.mp hu
    rw [Asking.result_bind] at hu
    obtain ⟨w, hw, _⟩ := bind_eq_ok.mp hu
    refine ⟨v, w, hv, hw, ?_⟩
    rw [← result_evaluate_comparison op hv hw, evaluate, Asking.result_bind]
    exact h
  · rintro ⟨v, w, hv, hw, h⟩
    rw [result_evaluate_comparison op hv hw]
    exact h

/-! ## §3  All four together -/

/-- A comparison that holds or not, as `b` tells. -/
def Says (state : BuildState) (op : Comparison) (left right : Expr) (b : Bool) : Prop :=
  (comparison op left right).evaluate.result state = .ok b

/-- A comparison that has a result. -/
def Stands (state : BuildState) (op : Comparison) (left right : Expr) : Prop :=
  ∃ b, Says state op left right b

/-- The results of the four relational comparisons. -/
structure Results (state : BuildState) (left right : Expr) (lt le gt ge : Bool) : Prop where
  less : Says state .less left right lt
  lessOrEqual : Says state .lessOrEqual left right le
  greater : Says state .greater left right gt
  greaterOrEqual : Says state .greaterOrEqual left right ge

/-- Where one relational comparison has a result, there is an order that all of them tell, and if
the operands change places they tell its reverse. -/
theorem exists_order_of_stands (hleft : left.value.result state ≠ .ok (.number .nan))
    (hright : right.value.result state ≠ .ok (.number .nan)) (hop : op.isEquality = false)
    (h : Stands state op left right) :
    ∃ o : Ordering, ∀ op' : Comparison, op'.isEquality = false →
      Says state op' left right (op'.accepts o) ∧
        Says state op' right left (op'.accepts o.swap) := by
  obtain ⟨b, hb⟩ := h
  obtain ⟨v, w, hv, hw, hcompare⟩ := result_comparison_eq_ok_iff.mp hb
  have hcomparable : ¬(asOperand left v).Incomparable (asOperand right w) := by
    intro hincomparable
    rw [(Operand.compare_eq_error_iff hop).mpr ⟨hincomparable, rfl⟩] at hcompare
    cases hcompare
  obtain ⟨o, ho⟩ := Operand.exists_order hcomparable
    (fun hnan => hleft (hv.trans (congrArg Except.ok hnan)))
    (fun hnan => hright (hw.trans (congrArg Except.ok hnan)))
  refine ⟨o, fun op' hop' => ⟨?_, ?_⟩⟩
  · exact result_comparison_eq_ok_iff.mpr ⟨v, w, hv, hw, Operand.compare_of_order hop' ho⟩
  · exact result_comparison_eq_ok_iff.mpr
      ⟨w, v, hw, hv, Operand.compare_of_order hop' (Operand.order_swap ho)⟩

/-- Where one relational comparison has a result, all have one, in both directions. -/
theorem stands_of_stands {op' : Comparison} (hleft : left.value.result state ≠ .ok (.number .nan))
    (hright : right.value.result state ≠ .ok (.number .nan)) (hop : op.isEquality = false)
    (hop' : op'.isEquality = false) (h : Stands state op left right) :
    Stands state op' left right ∧ Stands state op' right left := by
  obtain ⟨o, ho⟩ := exists_order_of_stands hleft hright hop h
  exact ⟨⟨_, (ho op' hop').1⟩, ⟨_, (ho op' hop').2⟩⟩

/-- How the relational comparisons of two expressions hang together. -/
structure Coherent (state : BuildState) (left right : Expr) : Prop where
  /-- if one has a result, all four have, and so have all four with the operands swapped -/
  together : ∀ op op' : Comparison, op.isEquality = false → op'.isEquality = false →
    (Stands state op left right ↔ Stands state op' left right) ∧
      (Stands state op left right ↔ Stands state op' right left)
  /-- then the results are those of one order, and the operands may change places with it -/
  ordered : Stands state .less left right → ∃ lt le gt ge,
    Results state left right lt le gt ge ∧ Results state right left gt ge lt le ∧
      [lt, gt, le && ge].count true = 1 ∧ le = !gt ∧ ge = !lt

/-- **The relational comparisons of two expressions that are not the number NaN are coherent.** -/
theorem coherent_of_ne_nan (hleft : left.value.result state ≠ .ok (.number .nan))
    (hright : right.value.result state ≠ .ok (.number .nan)) : Coherent state left right where
  together op op' hop hop' := by
    refine ⟨⟨fun h => ?_, fun h => ?_⟩, ⟨fun h => ?_, fun h => ?_⟩⟩
    · exact (stands_of_stands hleft hright hop hop' h).1
    · exact (stands_of_stands hleft hright hop' hop h).1
    · exact (stands_of_stands hleft hright hop hop' h).2
    · exact (stands_of_stands hright hleft hop' hop h).2
  ordered h := by
    obtain ⟨o, ho⟩ := exists_order_of_stands hleft hright rfl h
    have hswapped := fun op hop => (ho op hop).2
    refine ⟨_, _, _, _, ⟨(ho .less rfl).1, (ho .lessOrEqual rfl).1, (ho .greater rfl).1,
      (ho .greaterOrEqual rfl).1⟩, ?_⟩
    -- what is said of a reversed order is read off for each of the three orders
    cases o <;> exact ⟨⟨hswapped .less rfl, hswapped .lessOrEqual rfl, hswapped .greater rfl,
      hswapped .greaterOrEqual rfl⟩, rfl, rfl, rfl⟩

/-- The result of a function and a literal, which as numbers would be ordered the other way. -/
theorem coherent_of_ne_nan_versions :
    let state := BuildState.answering (fun _ => none) (.text "1.10")
    let left := Expr.call 0 "F" []
    let right := Expr.literal 6 (.text "1.9") "1.9"
    left.value.result state ≠ .ok (.number .nan) ∧
      right.value.result state ≠ .ok (.number .nan) ∧
      Coherent state left right ∧ Says state .greater left right true ∧
      Says state .less right left true ∧ Says state .greaterOrEqual right left false := by
  intro state left right
  have hleft : left.value.result state ≠ .ok (.number .nan) := by
    have hvalue : left.value.result state = .ok (.text "1.10") := rfl
    rw [hvalue]
    exact nofun
  have hright : right.value.result state ≠ .ok (.number .nan) := nofun
  exact ⟨hleft, hright, coherent_of_ne_nan hleft hright, by rfl, by rfl, by rfl⟩

end Expr

end BuildCondition
