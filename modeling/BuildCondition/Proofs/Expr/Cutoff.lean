import BuildCondition.Proofs.Expr.Limit
import BuildCondition.Proofs.Expr.Lookahead
import BuildCondition.Proofs.Mode.Lexing

/-!
# Where the limit cuts off

The lower the limit, the earlier a condition is cut off. Where a parser is cut off, one with more
room goes on. What it leaves of the tokens lies behind that place, and so does what it reports (§1).
This is kept by everything the parsers are made of (§2), and places are positions (§3).
-/

namespace BuildCondition.Expr

variable {α β : Type}

/-! ## §1  Behind a place -/

/-- What a parser comes to that has got to `here`: what it leaves is some of what stands there, and
what it reports is about something there. -/
def Beyond (s : Surroundings) (here : List Token) : Except Failure (α × List Token) → Prop
  | .ok (_, rest) => rest <:+ here
  | .error f => ∃ used more, here = used ++ more ∧ s.Blames 0 used more f

namespace Beyond

variable {s : Surroundings} {here more : List Token} {r : Except Failure (α × List Token)}

theorem mono (h : Beyond s more r) (hmore : more <:+ here) : Beyond s here r := by
  cases r with
  | ok found => exact List.IsSuffix.trans h hmore
  | error f =>
      obtain ⟨used, rest, rfl, hblames⟩ := h
      obtain ⟨taken, rfl⟩ := hmore
      exact ⟨taken ++ used, rest, (List.append_assoc ..).symm, hblames.mono fun _ => Nat.zero_le _⟩

end Beyond

namespace LooksAhead

variable {s : Surroundings} {p : Parse α} {here : List Token} {r : Except Failure (α × List Token)}

/-- A parser gets somewhere behind the place it starts at. -/
theorem beyond (h : LooksAhead s p) (ts : List Token) : Beyond s ts (p ts) := by
  obtain ⟨used, here, rfl, hstops⟩ := h ts
  cases hp : p (used ++ here) with
  | ok found =>
      obtain ⟨x, rest⟩ := found
      obtain rfl := hstops.leaves hp
      exact List.suffix_append used rest
  | error f => exact ⟨used, here, rfl, hstops.blames hp⟩

theorem beyond_bind {g : α → Parse β} (hr : Beyond s here r) (hg : ∀ x, LooksAhead s (g x)) :
    Beyond s here (r.bind fun (x, rest) => g x rest) := by
  cases r with
  | ok found => exact ((hg found.1).beyond found.2).mono hr
  | error f => exact hr

end LooksAhead

/-! ## §2  Parsers with more room go further -/

/-- The first result is that the limit cuts off somewhere, and the second lies behind that place. -/
def CutOffBefore (s s' : Surroundings) (ts : List Token) (r r' : Except Failure (α × List Token)) :
    Prop :=
  ∃ here t, here <:+ ts ∧ s.here here = .ok t ∧
    r = .error (Failure.ofCause .nestedTooDeeply (.beyond s.limit) (t.offset + 1)) ∧
    Beyond s' here r'

/-- What `wide` comes to is what `narrow` does, or lies behind the place where that is cut off. -/
structure Outlasts (s s' : Surroundings) (narrow wide : Parse α) : Prop where
  looks : LooksAhead s' wide
  agrees : ∀ ts, wide ts = narrow ts ∨ CutOffBefore s s' ts (narrow ts) (wide ts)

namespace CutOffBefore

variable {s s' : Surroundings} {ts us : List Token} {r r' : Except Failure (α × List Token)}

theorem mono (h : CutOffBefore s s' us r r') (hus : us <:+ ts) : CutOffBefore s s' ts r r' := by
  obtain ⟨here, t, hhere, h⟩ := h
  exact ⟨here, t, hhere.trans hus, h⟩

theorem bind {g g' : α → Parse β} (h : CutOffBefore s s' ts r r')
    (hg : ∀ x, LooksAhead s' (g' x)) :
    CutOffBefore s s' ts (r.bind fun (x, rest) => g x rest)
      (r'.bind fun (x, rest) => g' x rest) := by
  obtain ⟨here, t, hhere, ht, rfl, hbeyond⟩ := h
  exact ⟨here, t, hhere, ht, rfl, LooksAhead.beyond_bind hbeyond hg⟩

end CutOffBefore

namespace Outlasts

variable {s s' : Surroundings}

theorem ok (x : α) : Outlasts s s' (fun ts => .ok (x, ts)) fun ts => .ok (x, ts) :=
  ⟨.ok x, fun _ => .inl rfl⟩

theorem bind {p p' : Parse α} {g g' : α → Parse β} (hp : Outlasts s s' p p')
    (hg : ∀ x, Outlasts s s' (g x) (g' x)) :
    Outlasts s s' (fun ts => (p ts).bind fun (x, rest) => g x rest)
      fun ts => (p' ts).bind fun (x, rest) => g' x rest := by
  refine ⟨hp.looks.bind fun x => (hg x).looks, fun ts => ?_⟩
  rcases hp.agrees ts with hsame | hcut
  · have hbeyond := hp.looks.beyond ts
    rw [hsame] at hbeyond ⊢
    cases hfound : p ts with
    | error f => exact .inl rfl
    | ok found =>
        obtain ⟨x, rest⟩ := found
        rw [hfound] at hbeyond
        rcases (hg x).agrees rest with hsame' | hcut
        · exact .inl hsame'
        · exact .inr (hcut.mono hbeyond)
  · exact .inr (hcut.bind fun x => (hg x).looks)

theorem look {p p' q q' : Parse α} (hq : Outlasts s s' q q') (hnil : p [] = q [])
    (hnil' : p' [] = q' []) (h : ∀ t, At (Outlasts s s') p p' t) : Outlasts s s' p p' := by
  constructor
  · have hat : ∀ t, At (fun _ => LooksAhead s') p' p' t := by
      intro t
      cases h t with
      | stays ht _ hp' => exact .stays ht.looks hp' hp'
      | passes ht _ hp' => exact .passes ht.looks hp' hp'
    exact hq.looks.look hnil' hat
  · intro ts
    cases ts with
    | nil =>
        rw [hnil, hnil']
        exact hq.agrees []
    | cons t ts =>
        cases h t with
        | stays ht hp hp' =>
            rw [hp, hp']
            exact ht.agrees (t :: ts)
        | passes ht hp hp' =>
            rw [hp, hp']
            exact (ht.agrees ts).imp_right fun hcut => hcut.mono (List.suffix_cons t ts)

theorem furtherItems {p p' : Parse Expr} (hp : Outlasts s s' p p') (sep : Lexeme) (m : Nat)
    (done : List Expr) :
    Outlasts s s' (Surroundings.furtherItems sep p m done)
      (Surroundings.furtherItems sep p' m done) := by
  induction m generalizing done with
  | zero => exact .ok done.reverse
  | succ m ih =>
      have hstop : Outlasts s s' (fun ts => .ok (done.reverse, ts))
          fun ts => .ok (done.reverse, ts) :=
        .ok done.reverse
      refine hstop.look rfl rfl fun t => ?_
      by_cases ht : t.lexeme = sep
      · exact .passes (hp.bind fun e => ih (e :: done)) (Surroundings.furtherItems_of_eq ht)
          (Surroundings.furtherItems_of_eq ht)
      · exact .stays hstop (Surroundings.furtherItems_of_ne ht) (Surroundings.furtherItems_of_ne ht)

end Outlasts

/-- Two surroundings of the same tokens. -/
structure SameTokens (s s' : Surroundings) : Prop where
  ending : s'.ending = s.ending
  count : s'.count = s.count

namespace SameTokens

variable {s s' : Surroundings} (h : SameTokens s s')

include h

theorem wider : Wider s s' :=
  ⟨h.ending, Nat.le_of_eq h.count.symm⟩

theorem tooDeep {p : Parse α} (hlooks : LooksAhead s' p)
    (hp : ∀ f, s'.ending = .error f → p [] = .error f) : Outlasts s s' s.tooDeep p := by
  refine ⟨hlooks, fun ts => ?_⟩
  rw [Surroundings.tooDeep]
  cases hhere : s.here ts with
  | ok t => exact .inr ⟨ts, t, List.suffix_refl ts, hhere, rfl, hlooks.beyond ts⟩
  | error f =>
      cases ts with
      | cons t ts => cases hhere
      | nil =>
          have hend : s'.ending = .error f := h.ending.trans (map_eq_error.mp hhere)
          exact .inl (hp f hend)

/-- A parser with more room goes further than where it was cut off. -/
def simulation : Simulation s s' where
  rel := Outlasts s s'
  ok := .ok
  unexpected := by
    intro α
    rw [h.wider.unexpected_eq.symm]
    exact ⟨.unexpected, fun ts => .inl rfl⟩
  bind := .bind
  look := fun hq hnil hnil' hcons => .look hq hnil hnil' hcons
  furtherItems := fun sep done hp => by
    rw [h.count]
    exact hp.furtherItems sep s.count done

theorem expr {k k' : Nat} (hk : k ≤ k') : Outlasts s s' (s.expr k) (s'.expr k') := by
  have hlooks : ∀ k, LooksAhead s' (s'.operand k) :=
    (LooksAhead.simulation s').operand .tooDeep
  exact h.simulation.expr_of_le
    (fun k => h.tooDeep (hlooks k) fun _ hf => operand_nil hf k)
    (fun k => h.tooDeep (looksAhead_expr s' k) fun _ hf => expr_nil hf k) hk

end SameTokens

/-! ## §3  Conditions that are cut off -/

/-- The tokens stand one behind the other and before the end of the condition, and what breaks them
off is not the limit. -/
structure Orderly (l : Lexed) : Prop where
  sorted : l.tokens.Pairwise fun t u => t.offset < u.offset
  bounded : ∀ n, l.ending = .ok n → ∀ t ∈ l.tokens, t.offset < n
  unlimited : ∀ f, l.ending = .error f → f.cause ≠ .nestedTooDeeply

theorem orderly_lex (mode : Mode) (cs : List Char) : Orderly (lex mode cs) := by
  refine ⟨sorted_lexAt mode 0 cs, fun n hn t ht => ?_, fun f hf => ?_⟩
  · rw [ending_lexAt hn]
    exact (offset_of_mem_lexAt ht).2
  · exact cause_ne_of_not_lexical hf (by decide) (by simp [Cause.Restricts])

namespace Orderly

variable {l : Lexed} {s : Surroundings} {here more : List Token} {t u : Terminal}

/-- What stands behind a place is not before it. -/
theorem offset_le (h : Orderly l) (hending : s.ending = l.ending) (hhere : here <:+ l.tokens)
    (hmore : more <:+ here) (ht : s.here here = .ok t) (hu : s.here more = .ok u) :
    t.offset ≤ u.offset := by
  cases here with
  | nil =>
      rw [List.suffix_nil.mp hmore, ht] at hu
      cases hu
      exact Nat.le_refl _
  | cons first here =>
      cases ht
      cases more with
      | nil =>
          obtain ⟨n, hn, rfl⟩ := map_eq_ok.mp hu
          have hmem : first ∈ l.tokens := hhere.subset List.mem_cons_self
          exact Nat.le_of_lt (h.bounded n (hending ▸ hn) first hmem)
      | cons next more =>
          cases hu
          rcases List.suffix_cons_iff.mp hmore with heq | hbehind
          · cases heq
            exact Nat.le_refl _
          · have hsorted := h.sorted.sublist hhere.sublist
            exact Nat.le_of_lt
              (List.rel_of_pairwise_cons hsorted (hbehind.subset List.mem_cons_self))

end Orderly

/-- **The lower the limit, the earlier a condition is cut off.** -/
theorem ofLexed_cutOff_of_le {limit limit' : Nat} (hlimit : limit ≤ limit') {l : Lexed}
    (horderly : Orderly l) {f : Failure} (h : ofLexed limit' l = .error f)
    (hcause : f.cause = .nestedTooDeeply) :
    ∃ g, ofLexed limit l = .error g ∧ g.cause = .nestedTooDeeply ∧ g.position ≤ f.position := by
  let s : Surroundings := ⟨limit, l.ending, l.tokens.length⟩
  let s' : Surroundings := ⟨limit', l.ending, l.tokens.length⟩
  have hsame : SameTokens s s' := ⟨rfl, rfl⟩
  have hfails : (s'.expr limit' l.tokens).bind s'.finish = .error f := h
  rcases (hsame.expr hlimit).agrees l.tokens with heq | ⟨here, t, hhere, ht, hnarrow, hbeyond⟩
  · refine ⟨f, ?_, hcause, Nat.le_refl _⟩
    show (s.expr limit l.tokens).bind s.finish = .error f
    rw [← heq]
    exact hfails
  · refine ⟨Failure.ofCause .nestedTooDeeply (.beyond limit) (t.offset + 1), ?_, rfl, ?_⟩
    · show (s.expr limit l.tokens).bind s.finish = _
      rw [hnarrow]
      rfl
    · -- the failure under the higher limit is about something that stands `here` or behind
      rcases bind_eq_error.mp hfails with hexpr | ⟨⟨e, rest⟩, _, hfinish⟩
      · rw [hexpr] at hbeyond
        obtain ⟨used, more, rfl, hblames⟩ := hbeyond
        cases hblames with
        | ending _ hend => exact absurd hcause (horderly.unlimited f hend)
        | unexpected => cases hcause
        | tooDeep _ hu =>
            exact Nat.succ_le_succ
              (horderly.offset_le rfl hhere (List.suffix_append used more) ht hu)
      · cases rest with
        | nil => exact absurd hcause (horderly.unlimited f (map_eq_error.mp hfinish))
        | cons u rest =>
            cases hfinish
            cases hcause

end BuildCondition.Expr
