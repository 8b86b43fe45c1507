import BuildCondition.Proofs.Grammar.Acceptance
import BuildCondition.Proofs.Mode
import Mathlib.Data.List.Chain

/-!
# How high expressions are

Chains, comparisons and calls make an expression higher and are not counted as nesting. But what a
connective joins or an operator compares is of a tighter category, and only a group, an argument or
a negation leads back to a looser one. So there is room for five expressions on a level, one for each
category that adds something (§2), and the limit bounds the height however long the condition is.
-/

namespace BuildCondition

namespace Expr

/-! ## §1  Ways down an expression -/

/-- What stands directly below an expression, from left to right. -/
def children : Expr → List Expr
  | call _ _ arguments => arguments
  | not _ e => [e]
  | comparison _ left right => [left, right]
  | chain _ first others => first :: others
  | literal .. | template .. | reference .. => []

/-- The expressions that one passes on the way down from `e`, which is the first of them. -/
def Path (e : Expr) (path : List Expr) : Prop :=
  path.head? = some e ∧ path.IsChain fun x y => y ∈ x.children

/-- There are no more than `n` expressions on any way down. -/
def Within (n : Nat) (e : Expr) : Prop :=
  ∀ path, e.Path path → path.length ≤ n

variable {n m : Nat} {e : Expr}

theorem Within.mono (h : e.Within n) (hle : n ≤ m) : e.Within m :=
  fun path hpath => (h path hpath).trans hle

/-- An expression is one higher than what stands below it. -/
theorem within_of_children (h : ∀ x ∈ e.children, x.Within n) : e.Within (n + 1) := by
  rintro path ⟨hhead, hchain⟩
  cases path with
  | nil => cases hhead
  | cons x xs =>
      obtain rfl : x = e := Option.some.inj hhead
      cases xs with
      | nil => exact Nat.le_add_left 1 n
      | cons y ys =>
          obtain ⟨hy, hchain⟩ := List.isChain_cons_cons.mp hchain
          exact Nat.succ_le_succ (h y hy (y :: ys) ⟨rfl, hchain⟩)

theorem within_one_of_leaf (h : e.children = []) : e.Within 1 := by
  apply within_of_children
  simp [h]

theorem within_not (k : Nat) (h : e.Within n) : (not k e).Within (n + 1) :=
  within_of_children (List.forall_mem_singleton.mpr h)

theorem within_comparison (op : Comparison) {left right : Expr} (h : left.Within n)
    (h' : right.Within m) : (comparison op left right).Within (max n m + 1) := by
  apply within_of_children
  intro x hx
  rcases List.mem_pair.mp hx with rfl | rfl
  · exact h.mono (Nat.le_max_left n m)
  · exact h'.mono (Nat.le_max_right n m)

theorem within_call (k : Nat) (name : String) {arguments : List Expr}
    (h : ∀ x ∈ arguments, x.Within n) : (call k name arguments).Within (n + 1) :=
  within_of_children h

/-- A connective makes what it joins one higher, and leaves a lone operand as it is. -/
theorem within_joined (op : Connective) {first : Expr} {others : List Expr}
    (h : ∀ x ∈ first :: others, x.Within n) : (joined op first others).Within (n + 1) := by
  cases others with
  | nil => exact (h first List.mem_cons_self).mono (Nat.le_succ n)
  | cons second others => exact within_of_children h

theorem children_operand? {t : Token} (h : t.operand? = some e) : e.children = [] := by
  rcases Token.operand?_cases h with ⟨v, s, rfl, _⟩ | ⟨s, rfl, _⟩ | ⟨r, rfl, _⟩ <;> rfl

end Expr

/-! ## §2  Five expressions on a level -/

/-- How high an expression of a category may be without any nesting. -/
def Category.height : Category → Nat
  | .expr => 5
  | .conjunction => 4
  | .operand => 3
  | .equality => 3
  | .relation => 2
  | .primary => 1

open BuildCondition.Expr

mutual

/-- Every level of nesting has room for what an expression may be without any. -/
theorem Derives.within : ∀ {c d ts e}, Derives c d ts e → e.Within (c.height + 5 * d)
  | _, _, _, _, .expr h => (within_joined .or h.within).mono (by simp only [Category.height]; omega)
  | _, _, _, _, .conjunction h =>
      (within_joined .and h.within).mono (by simp only [Category.height]; omega)
  | _, _, _, _, .negation h => (within_not _ h.within).mono (by omega)
  | _, _, _, _, .operand h => h.within
  | _, _, _, _, .equality _ h h' =>
      (within_comparison _ h.within h'.within).mono (by simp only [Category.height]; omega)
  | _, _, _, _, .loneRelation h => h.within.mono (by simp only [Category.height]; omega)
  | _, _, _, _, .relation _ h h' =>
      (within_comparison _ h.within h'.within).mono (by simp only [Category.height]; omega)
  | _, _, _, _, .lonePrimary h => h.within.mono (by simp only [Category.height]; omega)
  | _, _, _, _, .group h => h.within.mono (by simp only [Category.height]; omega)
  | _, _, _, _, .emptyCall => within_one_of_leaf rfl
  | _, _, _, _, .call h =>
      (within_call _ _ h.within).mono (by simp only [Category.height]; omega)
  | _, _, _, _, .token h => within_one_of_leaf (children_operand? h)

theorem DerivesList.within : ∀ {sep c d ts first others}, DerivesList sep c d ts first others →
    ∀ x ∈ first :: others, x.Within (c.height + 5 * d)
  | _, _, _, _, _, _, .last h => List.forall_mem_singleton.mpr h.within
  | _, _, _, _, _, _, .more h h' => by
      refine List.forall_mem_cons.mpr ⟨h.within.mono ?_, fun x hx => (h'.within x hx).mono ?_⟩
      all_goals omega

end

/-! ## §3  Chains join something -/

namespace Expr

/-- If an expression is a chain, there are at least two operands in it. -/
def JoinsSome : Expr → Prop
  | chain _ first others => 2 ≤ (first :: others).length
  | _ => True

variable {e : Expr}

theorem joinsSome_of_leaf (h : e.children = []) : ∀ x ∈ e.parts, x.JoinsSome := by
  cases e with
  | literal | template | reference => simp [parts, JoinsSome]
  | call n name arguments =>
      obtain rfl : arguments = [] := h
      simp [parts, partsOfAll, JoinsSome]
  | not | comparison | chain => cases h

theorem joinsSome_partsOfAll {es : List Expr} (h : ∀ e ∈ es, ∀ x ∈ e.parts, x.JoinsSome) :
    ∀ x ∈ partsOfAll es, x.JoinsSome := by
  intro x hx
  rw [partsOfAll_eq_flatMap] at hx
  obtain ⟨e, he, hx⟩ := List.mem_flatMap.mp hx
  exact h e he x hx

theorem joinsSome_joined (op : Connective) {first : Expr} {others : List Expr}
    (h : ∀ e ∈ first :: others, ∀ x ∈ e.parts, x.JoinsSome) :
    ∀ x ∈ (joined op first others).parts, x.JoinsSome := by
  obtain ⟨hfirst, hothers⟩ := List.forall_mem_cons.mp h
  cases others with
  | nil => exact hfirst
  | cons second others =>
      refine List.forall_mem_cons.mpr ⟨Nat.le_add_left 2 _, ?_⟩
      exact List.forall_mem_append.mpr ⟨hfirst, joinsSome_partsOfAll hothers⟩

end Expr

mutual

theorem Derives.joinsSome : ∀ {c d ts e}, Derives c d ts e → ∀ x ∈ e.parts, x.JoinsSome
  | _, _, _, _, .expr h => joinsSome_joined .or h.joinsSome
  | _, _, _, _, .conjunction h => joinsSome_joined .and h.joinsSome
  | _, _, _, _, .negation h => List.forall_mem_cons.mpr ⟨trivial, h.joinsSome⟩
  | _, _, _, _, .operand h => h.joinsSome
  | _, _, _, _, .equality _ h h' =>
      List.forall_mem_cons.mpr ⟨trivial, List.forall_mem_append.mpr ⟨h.joinsSome, h'.joinsSome⟩⟩
  | _, _, _, _, .loneRelation h => h.joinsSome
  | _, _, _, _, .relation _ h h' =>
      List.forall_mem_cons.mpr ⟨trivial, List.forall_mem_append.mpr ⟨h.joinsSome, h'.joinsSome⟩⟩
  | _, _, _, _, .lonePrimary h => h.joinsSome
  | _, _, _, _, .group h => h.joinsSome
  | _, _, _, _, .emptyCall => joinsSome_of_leaf rfl
  | _, _, _, _, .call h => List.forall_mem_cons.mpr ⟨trivial, joinsSome_partsOfAll h.joinsSome⟩
  | _, _, _, _, .token h => joinsSome_of_leaf (children_operand? h)

theorem DerivesList.joinsSome : ∀ {sep c d ts first others},
    DerivesList sep c d ts first others → ∀ e ∈ first :: others, ∀ x ∈ e.parts, x.JoinsSome
  | _, _, _, _, _, _, .last h => List.forall_mem_singleton.mpr h.joinsSome
  | _, _, _, _, _, _, .more h h' => List.forall_mem_cons.mpr ⟨h.joinsSome, h'.joinsSome⟩

end

/-! ## §4  The limit bounds the height -/

/-- **The limit bounds the height.** However long a condition is, no way down its expression passes
more than five expressions for each level that the limit allows. And chains are only made of two
operands or more. -/
theorem height_le_of_parse {mode : Mode} {limit : Nat} {condition : String} {e : Expr}
    (h : Expr.parse mode limit condition = .ok e) :
    (∀ path, e.Path path → path.length ≤ 5 * limit) ∧
      ∀ op first others, .chain op first others ∈ e.parts → 2 ≤ (first :: others).length := by
  obtain ⟨_, _, d, hd, hderives⟩ := parse_eq_ok_iff.mp h
  constructor
  · intro path hpath
    calc path.length
      _ ≤ Category.height .expr + 5 * d := hderives.within path hpath
      _ = 5 * (d + 1) := by rw [Category.height]; omega
      _ ≤ 5 * limit := Nat.mul_le_mul_left 5 hd
  · intro op first others hx
    exact hderives.joinsSome _ hx

/-- One level is enough for five expressions, each below the one before. -/
theorem height_le_of_parse_on_one_level :
    ∃ e path, Expr.parse .everything 1 "a or b and c == d < e" = .ok e ∧ e.Path path ∧
      path.length = 5 ∧ path.length ≤ 5 * 1 := by
  let smaller := Expr.comparison .less (.ofWord 16 "d") (.ofWord 20 "e")
  let same := Expr.comparison .equal (.ofWord 11 "c") smaller
  let both := Expr.chain .and (.ofWord 5 "b") [same]
  let whole := Expr.chain .or (.ofWord 0 "a") [both]
  have hparse : Expr.parse .everything 1 "a or b and c == d < e" = .ok whole := by rfl
  have hpath : whole.Path [whole, both, same, smaller, .ofWord 20 "e"] := by
    refine ⟨rfl, ?_⟩
    simp [whole, both, same, smaller, Expr.children]
  exact ⟨whole, _, hparse, hpath, rfl, (height_le_of_parse hparse).1 _ hpath⟩

end BuildCondition
