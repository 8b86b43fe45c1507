import BuildCondition.Asking

/-!
# Laws of evaluations

Evaluations are put together with `bind`, which is associative (§1). A change of the failures passes
through it (§2), and a run of the whole is a run of the first part and then, unless that has failed,
one of the rest (§3). What an evaluation may ask, whatever the answers are, bounds what any run of
it asks (§4). Simple states to run evaluations against are given by what is found in them (§5).
-/

namespace BuildCondition.Asking

variable {α β γ : Type}

/-! ## §1  Sequences -/

theorem bind_ok (a : Asking α) : a.bind ok = a := by
  induction a with
  | done result => cases result <;> rfl
  | ask q go ih =>
      show ask q _ = ask q _
      congr 1
      funext answer
      exact ih answer

theorem bind_assoc (a : Asking α) (next : α → Asking β) (more : β → Asking γ) :
    (a.bind next).bind more = a.bind fun x => (next x).bind more := by
  induction a with
  | done result => cases result <;> rfl
  | ask q go ih =>
      show ask q _ = ask q _
      congr 1
      funext answer
      exact ih answer

theorem map_bind (f : α → β) (a : Asking α) (next : β → Asking γ) :
    (a.map f).bind next = a.bind fun x => next (f x) :=
  bind_assoc a _ next

/-! ## §2  Failures -/

variable {h : Failure → Failure}

theorem mapFailure_bind (a : Asking α) (next : α → Asking β) :
    (a.bind next).mapFailure h = (a.mapFailure h).bind fun x => (next x).mapFailure h := by
  induction a with
  | done result => cases result <;> rfl
  | ask q go ih =>
      show ask q _ = ask q _
      congr 1
      funext answer
      exact ih answer

/-- Two sequences have the same outcome, failures changed, if their parts do. -/
theorem mapFailure_bind_congr {a a' : Asking α} {next next' : α → Asking β}
    (ha : a.mapFailure h = a'.mapFailure h)
    (hnext : ∀ x, (next x).mapFailure h = (next' x).mapFailure h) :
    (a.bind next).mapFailure h = (a'.bind next').mapFailure h := by
  rw [mapFailure_bind, mapFailure_bind, ha]
  congr 1
  funext x
  exact hnext x

theorem mapFailure_done (result : Except Failure α) :
    (done result).mapFailure h = done (result.mapError h) := by
  cases result <;> rfl

/-! ## §3  Runs -/

variable (state : BuildState)

theorem runOnto_eq (asked : List Query) (a : Asking α) :
    a.runOnto state asked = (asked.reverse ++ (a.run state).1, (a.run state).2) := by
  induction a generalizing asked with
  | done result => simp [run, runOnto]
  | ask q go ih =>
      rw [runOnto, run, runOnto, ih (state q) (q :: asked), ih (state q) [q]]
      simp

@[simp] theorem run_done (result : Except Failure α) : (done result).run state = ([], result) := rfl

theorem run_ask (q : Query) (go : q.Answer → Asking α) :
    (ask q go).run state = (q :: ((go (state q)).run state).1, ((go (state q)).run state).2) := by
  rw [run, runOnto, runOnto_eq]
  rfl

/-- A sequence asks what its first part asks and then, unless that has failed, what the rest
asks. -/
theorem run_bind (a : Asking α) (next : α → Asking β) :
    (a.bind next).run state =
      match a.run state with
      | (asked, .ok x) => (asked ++ ((next x).run state).1, ((next x).run state).2)
      | (asked, .error f) => (asked, .error f) := by
  induction a with
  | done result => cases result <;> rfl
  | ask q go ih =>
      rw [bind, run_ask, run_ask, ih (state q)]
      generalize (go (state q)).run state = outcome
      obtain ⟨asked, result⟩ := outcome
      cases result <;> rfl

theorem result_bind (a : Asking α) (next : α → Asking β) :
    (a.bind next).result state = (a.result state).bind fun x => (next x).result state := by
  rw [result, run_bind, result]
  generalize a.run state = outcome
  obtain ⟨asked, result⟩ := outcome
  cases result <;> rfl

theorem run_mapFailure (a : Asking α) :
    (a.mapFailure h).run state = ((a.run state).1, (a.run state).2.mapError h) := by
  induction a with
  | done result => cases result <;> rfl
  | ask q go ih => rw [mapFailure, run_ask, run_ask, ih (state q)]

/-! ## §4  Questions -/

/-- Whatever is answered, and be it differently each time, only such questions are asked. -/
def AsksOnly (p : Query → Prop) : Asking α → Prop
  | done _ => True
  | ask q go => p q ∧ ∀ answer, AsksOnly p (go answer)

namespace AsksOnly

variable {p : Query → Prop} {a : Asking α}

theorem bind {next : α → Asking β} (h : a.AsksOnly p) (hnext : ∀ x, (next x).AsksOnly p) :
    (a.bind next).AsksOnly p := by
  induction a with
  | done result =>
      cases result with
      | ok x => exact hnext x
      | error f => trivial
  | ask q go ih => exact ⟨h.1, fun answer => ih answer (h.2 answer)⟩

theorem map (h : a.AsksOnly p) (f : α → β) : (a.map f).AsksOnly p :=
  h.bind fun _ => trivial

theorem mapFailure (h : a.AsksOnly p) (f : Failure → Failure) : (a.mapFailure f).AsksOnly p := by
  induction a with
  | done result => cases result <;> trivial
  | ask q go ih => exact ⟨h.1, fun answer => ih answer (h.2 answer)⟩

theorem of_run (h : a.AsksOnly p) (state : BuildState) : ∀ q ∈ (a.run state).1, p q := by
  induction a with
  | done result =>
      intro q hq
      cases hq
  | ask q go ih =>
      intro q' hq'
      rw [run_ask] at hq'
      rcases List.mem_cons.mp hq' with rfl | hq'
      · exact h.1
      · exact ih (state q) (h.2 (state q)) q' hq'

end AsksOnly

end BuildCondition.Asking

/-! ## §5  States -/

namespace BuildCondition

/-- A state of the build in which every function has the same value. -/
def BuildState.answering (found : Lookup → Option String) (value : Value) : BuildState
  | .lookup l => found l
  | .call _ _ => .ok value

end BuildCondition
