import BuildCondition.Proofs.Expr.Simulation

/-!
# Tokens that break off

A parser takes tokens from the left and looks at no more of them than it needs. So if the tokens
break off with a failure, the parser either gets to that place and reports the failure, or does what
it would do if the tokens went on, whatever came then. In the first case it may have found something
before it notices; then there is nothing left for the next parser, which does notice.
-/

namespace BuildCondition.Expr

variable {α β : Type} {f : Failure} {tail : List Token} {n : Nat}

/-! ## §1  Running out of tokens -/

/-- The tokens have run out: the parser reports `f`, or has nothing left. -/
def RanOut (f : Failure) (r : Except Failure (α × List Token)) : Prop :=
  r = .error f ∨ ∃ x, r = .ok (x, [])

/-- On at most `n` tokens that break off with `f`, `short` runs out or does what `long` does if
`tail` follows. -/
structure Extends (f : Failure) (tail : List Token) (n : Nat) (long short : Parse α) : Prop where
  none : RanOut f (short [])
  agrees : ∀ ts, ts.length ≤ n → RanOut f (short ts) ∨
    long (ts ++ tail) = (short ts).map fun (x, rest) => (x, rest ++ tail)
  shrinks : ∀ ts x rest, short ts = .ok (x, rest) → rest.length ≤ ts.length

namespace Extends

theorem mono {p p' : Parse α} {m : Nat} (hp : Extends f tail n p p') (hm : m ≤ n) :
    Extends f tail m p p' :=
  ⟨hp.none, fun ts hts => hp.agrees ts (Nat.le_trans hts hm), hp.shrinks⟩

theorem ok (x : α) : Extends f tail n (fun ts => .ok (x, ts)) fun ts => .ok (x, ts) := by
  refine ⟨.inr ⟨x, rfl⟩, fun ts _ => .inr rfl, fun ts y rest h => ?_⟩
  cases h
  exact Nat.le_refl _

theorem bind {p p' : Parse α} {g g' : α → Parse β} (hp : Extends f tail n p p')
    (hg : ∀ x, Extends f tail n (g x) (g' x)) :
    Extends f tail n (fun ts => (p ts).bind fun (x, rest) => g x rest)
      fun ts => (p' ts).bind fun (x, rest) => g' x rest := by
  -- a parser that has run out leaves nothing, and the next one then runs out as well
  have hout : ∀ {r}, RanOut f r →
      RanOut f (Except.bind r fun ((x, rest) : α × List Token) => g' x rest) := by
    rintro r (rfl | ⟨x, rfl⟩)
    · exact .inl rfl
    · exact (hg x).none
  refine ⟨hout hp.none, fun ts hts => ?_, fun ts y rest h => ?_⟩
  · rcases hp.agrees ts hts with hr | hr
    · exact .inl (hout hr)
    · cases hx : p' ts with
      | error e =>
          rw [hx] at hr
          rw [hr]
          exact .inr rfl
      | ok found =>
          obtain ⟨x, rest⟩ := found
          rw [hx] at hr
          rw [hr]
          exact (hg x).agrees rest (Nat.le_trans (hp.shrinks ts x rest hx) hts)
  · obtain ⟨⟨x, more⟩, hx, hy⟩ := bind_eq_ok.mp h
    exact Nat.le_trans ((hg x).shrinks more y rest hy) (hp.shrinks ts x more hx)

theorem look {p p' q q' : Parse α} (hq : Extends f tail n q q') (hnil : p' [] = q' [])
    (h : ∀ t, At (Extends f tail n) p p' t) : Extends f tail n p p' := by
  refine ⟨hnil ▸ hq.none, fun ts hts => ?_, fun ts x rest hx => ?_⟩
  · cases ts with
    | nil => exact .inl (hnil ▸ hq.none)
    | cons t ts =>
        rw [List.cons_append]
        cases h t with
        | stays ht hp hp' =>
            rw [hp, hp', ← List.cons_append]
            exact ht.agrees (t :: ts) hts
        | passes ht hp hp' =>
            rw [hp, hp']
            exact ht.agrees ts (Nat.le_of_succ_le hts)
  · cases ts with
    | nil => exact hq.shrinks [] x rest (hnil ▸ hx)
    | cons t ts =>
        cases h t with
        | stays ht _ hp' => exact ht.shrinks (t :: ts) x rest (hp' ts ▸ hx)
        | passes ht _ hp' => exact Nat.le_succ_of_le (ht.shrinks ts x rest (hp' ts ▸ hx))

/-- Both lists may have as many items as there are tokens. -/
theorem furtherItems {p p' : Parse Expr} (hp : Extends f tail n p p') (sep : Lexeme) (m : Nat)
    (hm : m ≤ n) (done : List Expr) :
    Extends f tail m (Surroundings.furtherItems sep p (m + tail.length) done)
      (Surroundings.furtherItems sep p' m done) := by
  induction m generalizing done with
  | zero =>
      refine ⟨.inr ⟨done.reverse, rfl⟩, fun ts hts => ?_, fun ts x rest h => ?_⟩
      · -- no more items than tokens: there are no tokens left either
        rw [List.length_eq_zero_iff.mp (Nat.le_zero.mp hts)]
        exact .inl (.inr ⟨done.reverse, rfl⟩)
      · cases h
        exact Nat.le_refl _
  | succ m ih =>
      -- what an item and the list behind it do, once the separator is passed
      have hnext : Extends f tail m _ _ :=
        (hp.mono (Nat.le_of_succ_le hm)).bind fun e => ih (Nat.le_of_succ_le hm) (e :: done)
      rw [Nat.add_right_comm]
      refine ⟨.inr ⟨done.reverse, rfl⟩, fun ts hts => ?_, fun ts x rest h => ?_⟩
      · cases ts with
        | nil => exact .inl (.inr ⟨done.reverse, rfl⟩)
        | cons t ts =>
            rw [List.cons_append]
            by_cases ht : t.lexeme = sep
            · rw [Surroundings.furtherItems_of_eq ht, Surroundings.furtherItems_of_eq ht]
              exact hnext.agrees ts (Nat.le_of_succ_le_succ hts)
            · rw [Surroundings.furtherItems_of_ne ht, Surroundings.furtherItems_of_ne ht]
              exact .inr rfl
      · cases ts with
        | nil =>
            cases h
            exact Nat.le_refl _
        | cons t ts =>
            by_cases ht : t.lexeme = sep
            · rw [Surroundings.furtherItems_of_eq ht] at h
              exact Nat.le_succ_of_le (hnext.shrinks ts x rest h)
            · rw [Surroundings.furtherItems_of_ne ht] at h
              cases h
              exact Nat.le_refl _

end Extends

/-! ## §2  Conditions that break off -/

/-- The surroundings of tokens that break off with `f`, and of those that go on with `tail`. -/
structure BrokenOff (f : Failure) (tail : List Token) (long short : Surroundings) : Prop where
  ending : short.ending = .error f
  limit : long.limit = short.limit
  count : long.count = short.count + tail.length

namespace BrokenOff

variable {s s' : Surroundings} (h : BrokenOff f tail s s')

include h

theorem here_nil : s'.here [] = .error f := by
  rw [Surroundings.here, h.ending]
  rfl

theorem unexpected : Extends f tail n (s.unexpected : Parse α) s'.unexpected := by
  refine ⟨.inl ?_, fun ts _ => ?_, fun ts x rest hx => absurd hx Surroundings.unexpected_ne_ok⟩
  · rw [Surroundings.unexpected, h.here_nil]
    rfl
  · cases ts with
    | nil =>
        rw [Surroundings.unexpected, h.here_nil]
        exact .inl (.inl rfl)
    | cons t ts => exact .inr rfl

theorem tooDeep : Extends f tail n (s.tooDeep : Parse α) s'.tooDeep := by
  refine ⟨.inl ?_, fun ts _ => ?_, fun ts x rest hx => absurd hx Surroundings.tooDeep_ne_ok⟩
  · rw [Surroundings.tooDeep, h.here_nil]
    rfl
  · cases ts with
    | nil =>
        rw [Surroundings.tooDeep, h.here_nil]
        exact .inl (.inl rfl)
    | cons t ts =>
        rw [Surroundings.tooDeep, ← h.limit]
        exact .inr rfl

/-- What happens to tokens that break off is part of what happens if they go on. -/
def simulation : Simulation s s' where
  rel := Extends f tail s'.count
  ok := .ok
  unexpected := h.unexpected
  bind := .bind
  look := fun hq _ hnil hcons => .look hq hnil hcons
  furtherItems := fun sep done hp => by
    rw [h.count]
    exact hp.furtherItems sep s'.count (Nat.le_refl _) done

end BrokenOff

/-- **Tokens that break off with a failure end in this failure**, unless the condition fails before
and would do so whatever came then. -/
theorem ofLexed_of_brokenOff (limit : Nat) (ts tail : List Token) (ending : Except Failure Nat)
    (f : Failure) :
    ofLexed limit ⟨ts, .error f⟩ = .error f ∨
      ofLexed limit ⟨ts, .error f⟩ = ofLexed limit ⟨ts ++ tail, ending⟩ := by
  let s : Surroundings := ⟨limit, ending, (ts ++ tail).length⟩
  let s' : Surroundings := ⟨limit, .error f, ts.length⟩
  have h : BrokenOff f tail s s' := ⟨rfl, rfl, List.length_append⟩
  have hexpr : Extends f tail s'.count (s.expr limit) (s'.expr limit) :=
    h.simulation.expr h.tooDeep limit
  show (s'.expr limit ts).bind s'.finish = _ ∨
    (s'.expr limit ts).bind s'.finish = (s.expr limit (ts ++ tail)).bind s.finish
  rcases hexpr.agrees ts (Nat.le_refl _) with (hshort | ⟨e, hshort⟩) | hlong
  · rw [hshort]
    exact .inl rfl
  · rw [hshort]
    exact .inl rfl
  · rw [hlong]
    cases s'.expr limit ts with
    | error g => exact .inr rfl
    | ok result =>
        obtain ⟨e, rest⟩ := result
        cases rest with
        | nil => exact .inl rfl
        | cons t rest => exact .inr rfl

end BuildCondition.Expr
