import BuildCondition.Proofs.Host
import BuildCondition.Proofs.Expr.Evaluation

/-!
# Boolean laws

Conditions are rewritten by people and by tools: a negation is moved inwards, parentheses are put
around a part of a chain or left out. None of this makes a difference that anybody could notice. The
truth value is the same, but so are the questions that are asked on the way, and the failure if
there is one, because a chain of operands is evaluated as its parts are, one after the other (§1),
and a negated operand settles the dual chain exactly where the operand settles the chain (§2).
-/

namespace BuildCondition

open Asking

/-! ## §1  Parts of a chain -/

namespace Expr

theorem evaluate_chain_eq_othersTruth (op : Connective) (first : Expr) (others : List Expr) :
    (chain op first others).evaluate = othersTruth op (first :: others) :=
  evaluate_chain op first others

/-- Some operands and then others: the others are reached unless the matter is settled. -/
theorem othersTruth_append (op : Connective) (es fs : List Expr) :
    othersTruth op (es ++ fs) =
      (othersTruth op es).bind fun b => if b = op.decisive then ok b else othersTruth op fs := by
  induction es with
  | nil => cases op <;> rfl
  | cons e es ih =>
      rw [List.cons_append, othersTruth, othersTruth, bind_assoc]
      congr 1
      funext b
      by_cases hb : b = op.decisive
      · rw [if_pos hb, if_pos hb]
        exact (if_pos hb).symm
      · rw [if_neg hb, if_neg hb, ih]

/-- A chain among the operands of a chain of the same connective counts as its operands do. -/
theorem othersTruth_group (op : Connective) (before : List Expr) (first : Expr)
    (run after : List Expr) :
    othersTruth op (before ++ first :: (run ++ after)) =
      othersTruth op (before ++ chain op first run :: after) := by
  have hinner : othersTruth op (first :: run ++ after) =
      othersTruth op (chain op first run :: after) := by
    show _ = (chain op first run).evaluate.bind _
    rw [othersTruth_append, evaluate_chain_eq_othersTruth]
  rw [othersTruth_append, othersTruth_append, ← hinner, List.cons_append]

/-! ## §2  Negated operands -/

/-- The negation of an expression, with the place of the sign in front of it. -/
def negation (e : Nat × Expr) : Expr :=
  not e.1 e.2

end Expr

namespace Connective

/-- The connective that a negated chain has. -/
def dual : Connective → Connective
  | or => and
  | and => or

theorem decisive_dual (op : Connective) : op.dual.decisive = !op.decisive := by
  cases op <;> rfl

end Connective

namespace Expr

theorem othersTruth_negation (op : Connective) (es : List (Nat × Expr)) :
    othersTruth op.dual (es.map negation) =
      (othersTruth op (es.map Prod.snd)).map fun b => !b := by
  induction es with
  | nil => cases op <;> rfl
  | cons e es ih =>
      rw [List.map_cons, List.map_cons, othersTruth, othersTruth, negation, evaluate_not,
        Asking.map_bind, Asking.map, bind_assoc, ih, op.decisive_dual]
      congr 1
      funext b
      -- the negated operand settles the matter if and only if the operand does
      by_cases hb : b = op.decisive
      · rw [if_pos hb, if_pos (congrArg Bool.not hb)]
        rfl
      · rw [if_neg hb, if_neg (mt Bool.not_inj hb)]
        rfl

/-- **Boolean laws hold with questions and failures included.** Whoever answers, also if not in the
same way each time, and whatever has been asked before: a negated chain does what the dual chain of
the negated operands does; a chain does what it does with some of its operands grouped, be it from
the first one on or further behind; and two negations do nothing. -/
theorem chains_obey_boolean_laws (host : Host) (past : List Query) (op : Connective) :
    (∀ (n : Nat) (first : Nat × Expr) (others : List (Nat × Expr)),
      (not n (chain op first.2 (others.map Prod.snd))).evaluate.converse host past =
        (chain op.dual (negation first) (others.map negation)).evaluate.converse host past) ∧
    (∀ (first : Expr) (run after : List Expr),
      (chain op first (run ++ after)).evaluate.converse host past =
        (chain op (chain op first run) after).evaluate.converse host past) ∧
    (∀ (first : Expr) (before : List Expr) (e : Expr) (run after : List Expr),
      (chain op first (before ++ e :: (run ++ after))).evaluate.converse host past =
        (chain op first (before ++ chain op e run :: after)).evaluate.converse host past) ∧
    ∀ (n m : Nat) (e : Expr),
      (not n (not m e)).evaluate.converse host past = e.evaluate.converse host past := by
  refine ⟨fun n first others => ?_, fun first run after => ?_,
    fun first before e run after => ?_, fun n m e => ?_⟩
  · rw [evaluate_not, evaluate_chain_eq_othersTruth, evaluate_chain_eq_othersTruth,
      ← List.map_cons, ← List.map_cons, othersTruth_negation]
  · rw [evaluate_chain_eq_othersTruth, evaluate_chain_eq_othersTruth]
    exact congrArg (converse host past) (othersTruth_group op [] first run after)
  · rw [evaluate_chain_eq_othersTruth, evaluate_chain_eq_othersTruth]
    exact congrArg (converse host past) (othersTruth_group op (first :: before) e run after)
  · rw [evaluate_not, evaluate_not, Asking.map, Asking.map_bind]
    simp only [Bool.not_not, bind_ok]

end Expr

end BuildCondition
