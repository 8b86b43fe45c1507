/-!
# Results that may be failures

A computation in steps succeeds exactly when each of its steps does. Proofs about such
computations take them apart with the lemmas of this module.
-/

namespace BuildCondition

variable {ε α β : Type}

theorem bind_eq_ok {x : Except ε α} {f : α → Except ε β} {b : β} :
    x.bind f = .ok b ↔ ∃ a, x = .ok a ∧ f a = .ok b := by
  cases x with
  | error e => simp [Except.bind]
  | ok a => simp [Except.bind]

theorem bind_eq_error {x : Except ε α} {f : α → Except ε β} {e : ε} :
    x.bind f = .error e ↔ x = .error e ∨ ∃ a, x = .ok a ∧ f a = .error e := by
  cases x with
  | error e' => simp [Except.bind]
  | ok a => simp [Except.bind]

theorem map_eq_ok {x : Except ε α} {f : α → β} {b : β} :
    x.map f = .ok b ↔ ∃ a, x = .ok a ∧ f a = b := by
  cases x with
  | error e => simp [Except.map]
  | ok a => simp [Except.map]

theorem map_eq_error {x : Except ε α} {f : α → β} {e : ε} :
    x.map f = .error e ↔ x = .error e := by
  cases x with
  | error e' => simp [Except.map]
  | ok a => simp [Except.map]

theorem map_congr_of_ok {x : Except ε α} {f g : α → β} (h : ∀ a, x = .ok a → f a = g a) :
    x.map f = x.map g := by
  cases x with
  | error e => rfl
  | ok a => exact congrArg Except.ok (h a rfl)

theorem mapError_ok {ε' : Type} (h : ε → ε') (a : α) :
    (Except.ok a : Except ε α).mapError h = .ok a := rfl

theorem mapError_error {ε' : Type} (h : ε → ε') (e : ε) :
    (Except.error e : Except ε α).mapError h = .error (h e) := rfl

theorem mapError_eq_ok {ε' : Type} {h : ε → ε'} {x : Except ε α} {a : α} :
    x.mapError h = .ok a ↔ x = .ok a := by
  cases x with
  | error e => constructor <;> intro hok <;> cases hok
  | ok b => constructor <;> intro hok <;> cases hok <;> rfl

theorem toOption_eq_some {x : Except ε α} {a : α} : x.toOption = some a ↔ x = .ok a := by
  cases x with
  | error e => simp [Except.toOption]
  | ok b => simp [Except.toOption]

theorem mapError_map {ε' : Type} (h : ε → ε') (f : α → β) (x : Except ε α) :
    (x.map f).mapError h = (x.mapError h).map f := by
  cases x <;> rfl

end BuildCondition
