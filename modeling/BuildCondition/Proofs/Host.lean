import BuildCondition.Proofs.Asking

/-!
# Hosts

A state of the build answers a question in the same way each time. The build need not be in such a
state: a function may look at files that somebody changes in the meantime. So an answer is allowed
to depend on all that has been asked before. Of such answers, those of a state are the simplest.
-/

namespace BuildCondition

/-- Whoever answers the questions, perhaps not in the same way each time: `past` has been asked
before. -/
abbrev Host := (past : List Query) → (q : Query) → q.Answer

namespace Asking

variable {α : Type}

/-- The questions asked of a host from the first one on, of which `past` have been asked already,
and the result. -/
def converse (host : Host) (past : List Query) : Asking α → List Query × Except Failure α
  | done result => (past, result)
  | ask q go => converse host (past ++ [q]) (go (host past q))

/-- A state of the build is a host that does not care what has been asked. -/
theorem converse_state (state : BuildState) (past : List Query) (a : Asking α) :
    a.converse (fun _ => state) past = (past ++ (a.run state).1, (a.run state).2) := by
  induction a generalizing past with
  | done result => rw [converse, run_done, List.append_nil]
  | ask q go ih => rw [converse, ih, run_ask, List.append_assoc, List.singleton_append]

theorem converse_map {β : Type} (f : α → β) (host : Host) (past : List Query) (a : Asking α) :
    (a.map f).converse host past = ((a.converse host past).1, (a.converse host past).2.map f) := by
  induction a generalizing past with
  | done result => cases result <;> rfl
  | ask q go ih => exact ih (host past q) (past ++ [q])

end Asking

end BuildCondition
