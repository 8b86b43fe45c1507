import BuildCondition.Proofs.Expr.Simulation
import BuildCondition.Proofs.Grammar.Viability

/-!
# One token ahead

A parser looks at the tokens it takes and at the one behind them, and no further. So what it finds,
or what it fails with, stays the same whatever comes behind that token.
-/

namespace BuildCondition.Expr

variable {α β : Type}

namespace Surroundings

variable {s : Surroundings} {ts us : List Token}

theorem here_congr (h : ts.head? = us.head?) : s.here ts = s.here us := by
  cases ts with
  | nil =>
      rw [List.head?_eq_none_iff.mp h.symm]
  | cons t ts =>
      obtain ⟨us', rfl⟩ := List.head?_eq_some_iff.mp h.symm
      rfl

theorem unexpected_congr (h : ts.head? = us.head?) :
    (s.unexpected ts : Except Failure α) = s.unexpected us := by
  rw [unexpected, unexpected, here_congr h]

theorem tooDeep_congr (h : ts.head? = us.head?) :
    (s.tooDeep ts : Except Failure α) = s.tooDeep us := by
  rw [tooDeep, tooDeep, here_congr h]

end Surroundings

theorem head?_append_congr {used here here' : List Token} (h : here'.head? = here.head?) :
    (used ++ here').head? = (used ++ here).head? := by
  rw [List.head?_append, List.head?_append, h]

/-! ## §1  Where a parser stops -/

/-- On `used` and then `here`, a parser takes `used` or fails because of what stands `here`, and
does the same whatever stands behind the first token there. -/
structure StopsAt (s : Surroundings) (p : Parse α) (used here : List Token) : Prop where
  leaves : ∀ {x rest}, p (used ++ here) = .ok (x, rest) → rest = here
  blames : ∀ {f}, p (used ++ here) = .error f → s.Blames 0 used here f
  same : ∀ here', here'.head? = here.head? →
    p (used ++ here') = (p (used ++ here)).map fun (x, _) => (x, here')

namespace StopsAt

variable {s : Surroundings} {p q : Parse α} {used here : List Token}

theorem takes {x : α} {rest : List Token} (h : StopsAt s p used here)
    (hp : p (used ++ here) = .ok (x, rest)) :
    ∀ here', here'.head? = here.head? → p (used ++ here') = .ok (x, here') := by
  intro here' hhead
  rw [h.same here' hhead, hp]
  rfl

theorem fails {f : Failure} (h : StopsAt s p used here) (hp : p (used ++ here) = .error f) :
    ∀ here', here'.head? = here.head? → p (used ++ here') = .error f := by
  intro here' hhead
  rw [h.same here' hhead, hp]
  rfl

theorem congr (h : StopsAt s q used here)
    (hpq : ∀ here', here'.head? = here.head? → p (used ++ here') = q (used ++ here')) :
    StopsAt s p used here := by
  constructor
  · intro x rest hx
    exact h.leaves (hpq here rfl ▸ hx)
  · intro f hf
    exact h.blames (hpq here rfl ▸ hf)
  · intro here' hhead
    rw [hpq here' hhead, hpq here rfl, h.same here' hhead]

theorem passes {t : Token} (h : StopsAt s q used here) (hpq : ∀ ts, p (t :: ts) = q ts) :
    StopsAt s p (t :: used) here := by
  constructor
  · intro x rest hx
    exact h.leaves (hpq (used ++ here) ▸ hx)
  · intro f hf
    exact (h.blames (hpq (used ++ here) ▸ hf)).mono fun _ => Nat.zero_le _
  · intro here' hhead
    rw [List.cons_append, List.cons_append, hpq, hpq, h.same here' hhead]

theorem bind_error {f : Failure} {g : α → Parse β} (h : StopsAt s p used here)
    (hf : p (used ++ here) = .error f) :
    StopsAt s (fun ts => (p ts).bind fun (x, rest) => g x rest) used here := by
  constructor
  · intro x rest hx
    rw [hf] at hx
    cases hx
  · intro f' hf'
    rw [hf] at hf'
    cases hf'
    exact h.blames hf
  · intro here' hhead
    rw [h.fails hf here' hhead, hf]
    rfl

/-- What is found by one parser is what the next one looks at, so that the token behind both is
the only one that matters to either. -/
theorem bind_ok {x : α} {used' here : List Token} {g : α → Parse β}
    (h : StopsAt s p used (used' ++ here))
    (hx : p (used ++ (used' ++ here)) = .ok (x, used' ++ here))
    (hg : StopsAt s (g x) used' here) :
    StopsAt s (fun ts => (p ts).bind fun (x, rest) => g x rest) (used ++ used') here := by
  have hboth : ∀ here', here'.head? = here.head? →
      ((p (used ++ used' ++ here')).bind fun (x, rest) => g x rest) = g x (used' ++ here') := by
    intro here' hhead
    rw [List.append_assoc, h.takes hx (used' ++ here') (head?_append_congr hhead)]
    rfl
  constructor
  · intro y rest hy
    exact hg.leaves (hboth here rfl ▸ hy)
  · intro f hf
    exact (hg.blames (hboth here rfl ▸ hf)).mono fun _ => Nat.zero_le _
  · intro here' hhead
    rw [hboth here' hhead, hboth here rfl]
    exact hg.same here' hhead

end StopsAt

/-! ## §2  Every parser looks one token ahead -/

/-- Whatever the tokens are, there is a place where the parser stops. -/
def LooksAhead (s : Surroundings) (p : Parse α) : Prop :=
  ∀ ts, ∃ used here, ts = used ++ here ∧ StopsAt s p used here

namespace LooksAhead

variable {s : Surroundings}

theorem ok (x : α) : LooksAhead s fun ts => .ok (x, ts) := by
  intro ts
  refine ⟨[], ts, rfl, ?_, ?_, fun here' _ => rfl⟩
  · intro y rest h
    cases h
    rfl
  · intro f h
    cases h

/-- A parser that only fails, and about what stands where it is. -/
theorem of_ne_ok {p : Parse α} (hne : ∀ {ts found}, p ts ≠ .ok found)
    (hcongr : ∀ {ts us : List Token}, us.head? = ts.head? → p us = p ts)
    (hblames : ∀ {ts f}, p ts = .error f → s.Blames 0 [] ts f) : LooksAhead s p := by
  intro ts
  refine ⟨[], ts, rfl, fun hx => absurd hx hne, hblames, fun here' hhead => ?_⟩
  rw [List.nil_append, List.nil_append, hcongr hhead]
  cases hts : p ts with
  | ok found => exact absurd hts hne
  | error f => rfl

theorem unexpected : LooksAhead s (s.unexpected : Parse α) :=
  of_ne_ok Surroundings.unexpected_ne_ok Surroundings.unexpected_congr
    Surroundings.blames_unexpected

theorem tooDeep : LooksAhead s (s.tooDeep : Parse α) :=
  of_ne_ok Surroundings.tooDeep_ne_ok Surroundings.tooDeep_congr Surroundings.blames_tooDeep

theorem bind {p : Parse α} {g : α → Parse β} (hp : LooksAhead s p) (hg : ∀ x, LooksAhead s (g x)) :
    LooksAhead s fun ts => (p ts).bind fun (x, rest) => g x rest := by
  intro ts
  obtain ⟨used, more, rfl, hstops⟩ := hp ts
  cases hfound : p (used ++ more) with
  | error f => exact ⟨used, more, rfl, hstops.bind_error hfound⟩
  | ok found =>
      obtain ⟨x, rest⟩ := found
      obtain rfl := hstops.leaves hfound
      obtain ⟨used', here, rfl, hstops'⟩ := hg x rest
      exact ⟨used ++ used', here, (List.append_assoc ..).symm, hstops.bind_ok hfound hstops'⟩

theorem look {p p' q : Parse α} (hq : LooksAhead s q) (hnil : p [] = q [])
    (h : ∀ t, At (fun _ => LooksAhead s) p' p t) : LooksAhead s p := by
  intro ts
  cases ts with
  | nil =>
      obtain ⟨used, here, hused, hstops⟩ := hq []
      obtain ⟨rfl, rfl⟩ := List.append_eq_nil_iff.mp hused.symm
      refine ⟨[], [], rfl, hstops.congr fun here' hhead => ?_⟩
      rw [List.head?_eq_none_iff.mp hhead]
      exact hnil
  | cons t ts =>
      cases h t with
      | stays ht _ hp =>
          obtain ⟨used, here, hused, hstops⟩ := ht (t :: ts)
          refine ⟨used, here, hused, hstops.congr fun here' hhead => ?_⟩
          -- whatever comes behind, the token that is looked at is the same
          have hfirst : (used ++ here').head? = some t := by
            rw [head?_append_congr hhead, ← hused]
            rfl
          obtain ⟨more, hmore⟩ := List.head?_eq_some_iff.mp hfirst
          rw [hmore]
          exact hp more
      | passes ht _ hp =>
          obtain ⟨used, here, rfl, hstops⟩ := ht ts
          exact ⟨t :: used, here, rfl, hstops.passes hp⟩

theorem furtherItems {p : Parse Expr} (hp : LooksAhead s p) (sep : Lexeme) (m : Nat)
    (done : List Expr) : LooksAhead s (Surroundings.furtherItems sep p m done) := by
  induction m generalizing done with
  | zero => exact .ok done.reverse
  | succ m ih =>
      have hstop : LooksAhead s fun ts => .ok (done.reverse, ts) := .ok done.reverse
      have hat : ∀ t, At (fun _ => LooksAhead s) (Surroundings.furtherItems sep p (m + 1) done)
          (Surroundings.furtherItems sep p (m + 1) done) t := by
        intro t
        by_cases ht : t.lexeme = sep
        · exact .passes (hp.bind fun e => ih (e :: done)) (Surroundings.furtherItems_of_eq ht)
            (Surroundings.furtherItems_of_eq ht)
        · exact .stays (q := fun ts => .ok (done.reverse, ts)) hstop
            (Surroundings.furtherItems_of_ne ht) (Surroundings.furtherItems_of_ne ht)
      exact hstop.look rfl hat

/-- What all parsers of the grammar are made of looks one token ahead. -/
def simulation (s : Surroundings) : Simulation s s where
  rel := fun _ => LooksAhead s
  ok := .ok
  unexpected := unexpected
  bind := .bind
  look := fun hq _ hnil hcons => hq.look hnil hcons
  furtherItems := fun sep done hp => hp.furtherItems sep s.count done

end LooksAhead

theorem looksAhead_expr (s : Surroundings) (levels : Nat) : LooksAhead s (s.expr levels) :=
  (LooksAhead.simulation s).expr .tooDeep levels

end BuildCondition.Expr
