import BuildCondition.Proofs.Expr.Simulation

/-!
# The limit only cuts off

The limit is looked at where an expression or a negated operand starts, and nowhere else. So if it
is raised, a parser does what it did before, unless it had been cut off.
-/

namespace BuildCondition.Expr

variable {α β : Type} {n : Nat}

/-! ## §1  Parsers with more room -/

/-- A result that was cut off by the limit. -/
def CutOff (r : Except Failure α) : Prop :=
  ∃ f, r = .error f ∧ f.cause = .nestedTooDeeply

/-- On at most `n` tokens, `narrow` is cut off or does what `wide` does. -/
structure Widens (n : Nat) (narrow wide : Parse α) : Prop where
  agrees : ∀ ts, ts.length ≤ n → CutOff (narrow ts) ∨ wide ts = narrow ts
  shrinks : ∀ ts x rest, narrow ts = .ok (x, rest) → rest.length ≤ ts.length

namespace Widens

theorem mono {p p' : Parse α} {m : Nat} (hp : Widens n p p') (hm : m ≤ n) : Widens m p p' :=
  ⟨fun ts hts => hp.agrees ts (Nat.le_trans hts hm), hp.shrinks⟩

theorem ok (x : α) : Widens n (fun ts => .ok (x, ts)) fun ts => .ok (x, ts) := by
  refine ⟨fun ts _ => .inr rfl, fun ts y rest h => ?_⟩
  cases h
  exact Nat.le_refl _

theorem bind {p p' : Parse α} {g g' : α → Parse β} (hp : Widens n p p')
    (hg : ∀ x, Widens n (g x) (g' x)) :
    Widens n (fun ts => (p ts).bind fun (x, rest) => g x rest)
      fun ts => (p' ts).bind fun (x, rest) => g' x rest := by
  constructor
  · intro ts hts
    rcases hp.agrees ts hts with ⟨f, hf, hcause⟩ | hsame
    · refine .inl ⟨f, ?_, hcause⟩
      rw [hf]
      rfl
    · rw [hsame]
      cases hfound : p ts with
      | error f => exact .inr rfl
      | ok found =>
          obtain ⟨x, rest⟩ := found
          exact (hg x).agrees rest (Nat.le_trans (hp.shrinks ts x rest hfound) hts)
  · intro ts y rest h
    obtain ⟨⟨x, more⟩, hx, hy⟩ := bind_eq_ok.mp h
    exact Nat.le_trans ((hg x).shrinks more y rest hy) (hp.shrinks ts x more hx)

theorem look {p p' q q' : Parse α} (hq : Widens n q q') (hnil : p [] = q []) (hnil' : p' [] = q' [])
    (h : ∀ t, At (Widens n) p p' t) : Widens n p p' := by
  constructor
  · intro ts hts
    cases ts with
    | nil =>
        rw [hnil, hnil']
        exact hq.agrees [] hts
    | cons t ts =>
        cases h t with
        | stays ht hp hp' =>
            rw [hp, hp']
            exact ht.agrees (t :: ts) hts
        | passes ht hp hp' =>
            rw [hp, hp']
            exact ht.agrees ts (Nat.le_of_succ_le hts)
  · intro ts x rest hx
    cases ts with
    | nil => exact hq.shrinks [] x rest (hnil ▸ hx)
    | cons t ts =>
        cases h t with
        | stays ht hp _ => exact ht.shrinks (t :: ts) x rest (hp ts ▸ hx)
        | passes ht hp _ => exact Nat.le_succ_of_le (ht.shrinks ts x rest (hp ts ▸ hx))

/-- Both lists may have as many items as there are tokens. -/
theorem furtherItems {p p' : Parse Expr} (hp : Widens n p p') (sep : Lexeme) {m m' : Nat}
    (hm : m ≤ n) (hm' : m ≤ m') (done : List Expr) :
    Widens m (Surroundings.furtherItems sep p m done)
      (Surroundings.furtherItems sep p' m' done) := by
  induction m generalizing m' done with
  | zero =>
      refine ⟨fun ts hts => .inr ?_, fun ts x rest h => ?_⟩
      · -- no more items than tokens: there are no tokens left either
        rw [List.length_eq_zero_iff.mp (Nat.le_zero.mp hts)]
        cases m' <;> rfl
      · cases h
        exact Nat.le_refl _
  | succ m ih =>
      obtain ⟨k, rfl⟩ : ∃ k, m' = k + 1 := Nat.exists_eq_add_one.mpr (by omega)
      -- what an item and the list behind it do, once the separator is passed
      have hnext : Widens m _ _ := (hp.mono (Nat.le_of_succ_le hm)).bind fun e =>
        ih (Nat.le_of_succ_le hm) (Nat.le_of_succ_le_succ hm') (e :: done)
      constructor
      · intro ts hts
        cases ts with
        | nil => exact .inr rfl
        | cons t ts =>
            by_cases ht : t.lexeme = sep
            · rw [Surroundings.furtherItems_of_eq ht, Surroundings.furtherItems_of_eq ht]
              exact hnext.agrees ts (Nat.le_of_succ_le_succ hts)
            · rw [Surroundings.furtherItems_of_ne ht, Surroundings.furtherItems_of_ne ht]
              exact .inr rfl
      · intro ts x rest h
        cases ts with
        | nil =>
            cases h
            exact Nat.le_refl _
        | cons t ts =>
            by_cases ht : t.lexeme = sep
            · rw [Surroundings.furtherItems_of_eq ht] at h
              exact Nat.le_succ_of_le (hnext.shrinks ts x rest h)
            · rw [Surroundings.furtherItems_of_ne ht] at h
              cases h
              exact Nat.le_refl _

end Widens

/-! ## §2  Surroundings with more room -/

section NoTokens

variable {s : Surroundings} {p q : Parse Expr} {f : Failure}

theorem tooDeep_nil (h : s.ending = .error f) : (s.tooDeep [] : Except Failure α) = .error f := by
  rw [Surroundings.tooDeep, Surroundings.here, h]
  rfl

theorem operandWith_nil (h : s.ending = .error f) : s.operandWith q p [] = .error f := by
  have hprimary : s.primary p [] = .error f := by
    rw [Surroundings.primary, Surroundings.unexpected, Surroundings.here, h]
    rfl
  show s.equality p [] = _
  rw [Surroundings.equality, Surroundings.compared, Surroundings.compared, hprimary]
  rfl

theorem operand_nil (h : s.ending = .error f) (levels : Nat) : s.operand levels [] = .error f := by
  cases levels with
  | zero => exact operandWith_nil h
  | succ levels => exact operandWith_nil h

theorem expr_nil (h : s.ending = .error f) (levels : Nat) : s.expr levels [] = .error f := by
  cases levels with
  | zero => exact tooDeep_nil h
  | succ levels =>
      show s.alternatives (s.operand levels) [] = _
      rw [Surroundings.alternatives, Surroundings.chained, Surroundings.items,
        Surroundings.chained, Surroundings.items, operand_nil h levels]
      rfl

end NoTokens

/-- Two surroundings of tokens that end alike, the second with more room. -/
structure Wider (narrow wide : Surroundings) : Prop where
  ending : wide.ending = narrow.ending
  count : narrow.count ≤ wide.count

namespace Wider

variable {s s' : Surroundings} (h : Wider s s')

include h

theorem unexpected_eq : (s'.unexpected : Parse α) = s.unexpected := by
  funext ts
  cases ts with
  | nil => rw [Surroundings.unexpected, Surroundings.unexpected, Surroundings.here,
      Surroundings.here, h.ending]
  | cons t ts => rfl

/-- What is cut off at once agrees with whatever reports how the tokens end. -/
theorem tooDeep {p : Parse α} (hp : ∀ f, s'.ending = .error f → p [] = .error f) :
    Widens n s.tooDeep p := by
  refine ⟨fun ts _ => ?_, fun ts x rest hx => absurd hx Surroundings.tooDeep_ne_ok⟩
  cases hhere : s.here ts with
  | ok t =>
      refine .inl ⟨Failure.ofCause .nestedTooDeeply (.beyond s.limit) (t.offset + 1), ?_, rfl⟩
      rw [Surroundings.tooDeep, hhere]
      rfl
  | error f =>
      cases ts with
      | cons t ts => cases hhere
      | nil =>
          have hend : s'.ending = .error f := by
            rw [h.ending]
            exact map_eq_error.mp hhere
          rw [hp f hend, Surroundings.tooDeep, hhere]
          exact .inr rfl

/-- What a parser does with more room is what it did, unless it was cut off. -/
def simulation : Simulation s s' where
  rel := Widens s.count
  ok := .ok
  unexpected := by
    intro α
    rw [h.unexpected_eq]
    exact ⟨fun ts _ => .inr rfl, fun ts x rest hx => absurd hx Surroundings.unexpected_ne_ok⟩
  bind := .bind
  look := fun hq hnil hnil' hcons => .look hq hnil hnil' hcons
  furtherItems := fun sep done hp => hp.furtherItems sep (Nat.le_refl _) h.count done

theorem expr {k k' : Nat} (hk : k ≤ k') : Widens s.count (s.expr k) (s'.expr k') :=
  h.simulation.expr_of_le (fun k => h.tooDeep fun _ hf => operand_nil hf k)
    (fun k => h.tooDeep fun _ hf => expr_nil hf k) hk

theorem finish_eq (result : Expr × List Token) : s'.finish result = s.finish result := by
  obtain ⟨e, rest⟩ := result
  cases rest with
  | nil => rw [Surroundings.finish, Surroundings.finish, h.ending]
  | cons t rest => rfl

theorem all {k k' : Nat} (hk : k ≤ k') {ts : List Token} (hts : ts.length ≤ s.count) :
    CutOff ((s.expr k ts).bind s.finish) ∨
      (s'.expr k' ts).bind s'.finish = (s.expr k ts).bind s.finish := by
  rcases (h.expr hk).agrees ts hts with ⟨f, hf, hcause⟩ | hsame
  · refine .inl ⟨f, ?_, hcause⟩
    rw [hf]
    rfl
  · rw [hsame]
    cases s.expr k ts with
    | error f => exact .inr rfl
    | ok result => exact .inr (h.finish_eq result)

end Wider

/-- **A higher limit only matters where the lower one cuts off.** -/
theorem ofLexed_of_le {limit limit' : Nat} (hlimit : limit ≤ limit') (l : Lexed) :
    CutOff (ofLexed limit l) ∨ ofLexed limit' l = ofLexed limit l := by
  have hwider : Wider ⟨limit, l.ending, l.tokens.length⟩ ⟨limit', l.ending, l.tokens.length⟩ :=
    ⟨rfl, Nat.le_refl _⟩
  exact hwider.all hlimit (Nat.le_refl _)

end BuildCondition.Expr
