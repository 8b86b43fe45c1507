import BuildCondition.Proofs.Expr.Counter
import BuildCondition.Proofs.Expr.Cutoff
import BuildCondition.Proofs.Grammar.Nesting

/-!
# The nesting limit

The limit guards against conditions that are nested too deeply, and does nothing else: what is not
cut off under some limit is the same under every higher one, what is cut off is cut off sooner under
a lower one, and how much a condition needs is how deep it is nested.
-/

namespace BuildCondition

open BuildCondition.Expr

variable {mode : Mode} {condition : String}

/-- A condition that is accepted under some limit is accepted under those beyond its nesting. -/
theorem parse_ok_iff_nesting_lt {limit : Nat} {e : Expr}
    (h : Expr.parse mode limit condition = .ok e) (n : Nat) :
    (∃ e', Expr.parse mode n condition = .ok e') ↔
      nesting (lex mode condition.toList).tokens + 1 ≤ n := by
  obtain ⟨hending, d, _, he⟩ := ofLexed_eq_ok_iff.mp h
  constructor
  · rintro ⟨e', h'⟩
    obtain ⟨_, d', hd', he'⟩ := ofLexed_eq_ok_iff.mp h'
    rw [he'.nesting_eq]
    exact hd'
  · intro hn
    rw [he.nesting_eq] at hn
    exact ⟨e, ofLexed_eq_ok_iff.mpr ⟨hending, d, hn, he⟩⟩

/-- **The limit only cuts conditions off, and exactly at their nesting.** Where the lower of two
limits does not cut off, the higher one makes no difference; where the higher one does, the lower one
does so too, and not later. A condition that is accepted at all is accepted under those limits that
are greater than the largest number of groups, arguments and negations around an operand or function
name. And the counter of the levels is never lowered from zero. -/
theorem parse_cutOff_at_nesting {n m : Nat} (hle : n ≤ m) :
    (¬CutOff (Expr.parse mode n condition) →
      Expr.parse mode m condition = Expr.parse mode n condition) ∧
    (∀ f, Expr.parse mode m condition = .error f → f.cause = .nestedTooDeeply →
      ∃ g, Expr.parse mode n condition = .error g ∧ g.cause = .nestedTooDeeply ∧
        g.position ≤ f.position) ∧
    (∀ limit e, Expr.parse mode limit condition = .ok e →
      ((∃ e', Expr.parse mode n condition = .ok e') ↔
        nesting (lex mode condition.toList).tokens + 1 ≤ n)) ∧
    ∀ room, n ≤ room → ∃ depth,
      Counted.parse room mode n condition = some (depth, Expr.parse mode n condition) ∧
        ∀ e, Expr.parse mode n condition = .ok e → depth = 0 := by
  refine ⟨fun huncut => ?_, fun f hf hcause => ?_, fun limit e he => ?_, fun room hroom => ?_⟩
  · exact (ofLexed_of_le hle (lex mode condition.toList)).resolve_left huncut
  · exact ofLexed_cutOff_of_le hle (orderly_lex mode condition.toList) hf hcause
  · exact parse_ok_iff_nesting_lt he n
  · exact counted_ofLexed hroom (lex mode condition.toList)

/-- Three levels around an operand: a negation, an argument and another negation. Of the two limits
that are too low, the lower one already cuts off at the first argument. -/
theorem parse_cutOff_at_argument :
    (2 : Nat) ≤ 3 ∧ ∃ f g, Expr.parse .everything 3 "!f(a, !b) or c" = .error f ∧
      f.cause = .nestedTooDeeply ∧ f.position = 8 ∧
      Expr.parse .everything 2 "!f(a, !b) or c" = .error g ∧
      g.cause = .nestedTooDeeply ∧ g.position ≤ 8 ∧
      ¬(∃ e, Expr.parse .everything 2 "!f(a, !b) or c" = .ok e) := by
  have hfails : Expr.parse .everything 3 "!f(a, !b) or c" =
      .error (Failure.ofCause .nestedTooDeeply (.beyond 3) 8) := by rfl
  have hparse : ∃ e, Expr.parse .everything 4 "!f(a, !b) or c" = .ok e := ⟨_, rfl⟩
  obtain ⟨e, he⟩ := hparse
  obtain ⟨_, hcutOff, hnesting, _⟩ :=
    @parse_cutOff_at_nesting .everything "!f(a, !b) or c" 2 3 (by decide)
  obtain ⟨g, hg, hcause, hposition⟩ := hcutOff _ hfails rfl
  refine ⟨by decide, _, g, hfails, rfl, rfl, hg, hcause, hposition, ?_⟩
  rw [hnesting 4 e he]
  decide

end BuildCondition
