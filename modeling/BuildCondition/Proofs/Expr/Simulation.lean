import BuildCondition.Proofs.Grammar.Parser

/-!
# Two parsers side by side

The parsers of the grammar are made of few things: they look at a token and pass it or not, they
fail where they are, and they go on with what another parser has found. A relation between parsers
that is kept by these (§1) is kept by everything the grammar is made of (§2), also where one of them
may go deeper (§3). So what two runs have in common, or what every run does, is shown for those few
things alone.
-/

namespace BuildCondition.Expr

/-! ## §1  Simulations -/

/-- At the token `t`, two parsers do what related ones do there or behind it. -/
inductive At {α : Type} (rel : Parse α → Parse α → Prop) (p p' : Parse α) (t : Token) : Prop
  | stays {q q' : Parse α} : rel q q' → (∀ ts, p (t :: ts) = q (t :: ts)) →
      (∀ ts, p' (t :: ts) = q' (t :: ts)) → At rel p p' t
  | passes {q q' : Parse α} : rel q q' → (∀ ts, p (t :: ts) = q ts) →
      (∀ ts, p' (t :: ts) = q' ts) → At rel p p' t

/-- A relation between parsers in two surroundings that is kept by everything they are made of. -/
structure Simulation (s s' : Surroundings) where
  rel : {α : Type} → Parse α → Parse α → Prop
  ok : ∀ {α : Type} (x : α), rel (fun ts => .ok (x, ts)) fun ts => .ok (x, ts)
  unexpected : ∀ {α : Type}, rel (s.unexpected : Parse α) s'.unexpected
  bind : ∀ {α β : Type} {p p' : Parse α} {g g' : α → Parse β}, rel p p' → (∀ x, rel (g x) (g' x)) →
    rel (fun ts => (p ts).bind fun (x, rest) => g x rest)
      fun ts => (p' ts).bind fun (x, rest) => g' x rest
  look : ∀ {α : Type} {p p' q q' : Parse α}, rel q q' → p [] = q [] → p' [] = q' [] →
    (∀ t, At rel p p' t) → rel p p'
  furtherItems : ∀ {p p' : Parse Expr} (sep : Lexeme) (done : List Expr), rel p p' →
    rel (Surroundings.furtherItems sep p s.count done)
      (Surroundings.furtherItems sep p' s'.count done)

namespace Simulation

variable {s s' : Surroundings} (sim : Simulation s s') {α β : Type} {p p' q q' : Parse Expr}

theorem map {p p' : Parse α} (hp : sim.rel p p') (g : α → β) :
    sim.rel (fun ts => (p ts).map fun (x, rest) => (g x, rest))
      fun ts => (p' ts).map fun (x, rest) => (g x, rest) := by
  have hmap : ∀ (p : Parse α) ts, ((p ts).map fun (x, rest) => (g x, rest)) =
      (p ts).bind fun (x, rest) => .ok (g x, rest) := by
    intro p ts
    cases p ts <;> rfl
  simp only [hmap]
  exact sim.bind hp fun x => sim.ok (g x)

/-! ## §2  The parsers of the grammar -/

theorem expect (l : Lexeme) (x : α) :
    sim.rel (fun ts => (s.expect l ts).map fun rest => (x, rest))
      fun ts => (s'.expect l ts).map fun rest => (x, rest) := by
  have hnil : ∀ s : Surroundings,
      ((s.expect l []).map fun rest => (x, rest)) = s.unexpected [] := by
    intro s
    rw [Surroundings.expect, Surroundings.unexpected, Surroundings.unexpected]
    cases s.here [] <;> rfl
  refine sim.look sim.unexpected (hnil s) (hnil s') fun t => ?_
  by_cases ht : t.lexeme = l
  · have hpass : ∀ (s : Surroundings) ts,
        ((s.expect l (t :: ts)).map fun rest => (x, rest)) = .ok (x, ts) := by
      intro s ts
      rw [Surroundings.expect, if_pos ht]
      rfl
    exact .passes (sim.ok x) (hpass s) (hpass s')
  · have hfail : ∀ (s : Surroundings) ts,
        ((s.expect l (t :: ts)).map fun rest => (x, rest)) = s.unexpected (t :: ts) := by
      intro s ts
      rw [Surroundings.expect, if_neg ht]
      rfl
    exact .stays sim.unexpected (hfail s) (hfail s')

theorem items (hp : sim.rel p p') (sep : Lexeme) : sim.rel (s.items sep p) (s'.items sep p') :=
  sim.bind hp fun first => sim.map (sim.furtherItems sep [] hp) fun others => (first, others)

theorem arguments (hp : sim.rel p p') : sim.rel (s.arguments p) (s'.arguments p') := by
  have hlist := sim.bind (sim.items hp .comma) fun found =>
    sim.expect .rightParen (found.1 :: found.2)
  refine sim.look hlist rfl rfl fun t => ?_
  by_cases ht : t.lexeme = .rightParen
  · obtain ⟨l, n⟩ := t
    cases ht
    exact .passes (sim.ok []) (fun ts => rfl) fun ts => rfl
  · exact .stays hlist (fun ts => Surroundings.arguments_of_ne_rightParen ht)
      fun ts => Surroundings.arguments_of_ne_rightParen ht

/-- What a call does behind its name. -/
def behindName (s : Surroundings) (p : Parse Expr) (n : Nat) (name : String) :
    Parse Expr := fun ts =>
  ((s.expect .leftParen ts).map fun rest => ((), rest)).bind fun (_, rest) =>
    (s.arguments p rest).map fun (es, rest) => (call n name es, rest)

theorem primary_functionName (s : Surroundings) (p : Parse Expr) (n : Nat) (name : String)
    (ts : List Token) :
    s.primary p (⟨.functionName name, n⟩ :: ts) = behindName s p n name ts := by
  show (s.expect .leftParen ts).bind _ = _
  unfold behindName
  cases s.expect .leftParen ts <;> rfl

theorem primary (hp : sim.rel p p') : sim.rel (s.primary p) (s'.primary p') := by
  have hgroup := sim.bind hp fun e => sim.expect .rightParen e
  have hcall : ∀ n name, sim.rel (behindName s p n name) (behindName s' p' n name) := by
    intro n name
    exact sim.bind (sim.expect .leftParen ()) fun _ => sim.map (sim.arguments hp) (call n name)
  refine sim.look sim.unexpected rfl rfl fun t => ?_
  obtain ⟨l, n⟩ := t
  cases l with
  | leftParen => exact .passes hgroup (fun ts => rfl) fun ts => rfl
  | functionName name =>
      exact .passes (hcall n name) (primary_functionName s p n name)
        (primary_functionName s' p' n name)
  | word | quoted | numeral | reference => exact .passes (sim.ok _) (fun ts => rfl) fun ts => rfl
  | connective | not | comparison | rightParen | comma =>
      exact .stays sim.unexpected (fun ts => rfl) fun ts => rfl

/-- What a comparison does behind its left operand. -/
def behindLeft (accepted : Comparison → Bool) (p : Parse Expr) (left : Expr) :
    Parse Expr := fun ts =>
  match ts with
  | ⟨.comparison op, _⟩ :: more =>
      if accepted op then (p more).map fun (right, rest) => (comparison op left right, rest)
      else .ok (left, ts)
  | _ => .ok (left, ts)

theorem compared (hp : sim.rel p p') (accepted : Comparison → Bool) :
    sim.rel (Surroundings.compared accepted p) (Surroundings.compared accepted p') := by
  have hbehind : ∀ left, sim.rel (behindLeft accepted p left) (behindLeft accepted p' left) := by
    intro left
    refine sim.look (sim.ok left) rfl rfl fun t => ?_
    obtain ⟨l, n⟩ := t
    cases l with
    | comparison op =>
        by_cases hop : accepted op = true
        · exact .passes (sim.map hp (comparison op left)) (fun ts => if_pos hop)
            fun ts => if_pos hop
        · exact .stays (sim.ok left) (fun ts => if_neg hop) fun ts => if_neg hop
    | _ => exact .stays (sim.ok left) (fun ts => rfl) fun ts => rfl
  exact sim.bind hp hbehind

theorem equality (hp : sim.rel p p') : sim.rel (s.equality p) (s'.equality p') :=
  sim.compared (sim.compared (sim.primary hp) _) _

theorem chained (hp : sim.rel p p') (op : Connective) :
    sim.rel (s.chained op p) (s'.chained op p') :=
  sim.map (sim.items hp (.connective op)) fun found => joined op found.1 found.2

theorem alternatives (hp : sim.rel p p') : sim.rel (s.alternatives p) (s'.alternatives p') :=
  sim.chained (sim.chained hp .and) .or

theorem operandWith (hq : sim.rel q q') (hp : sim.rel p p') :
    sim.rel (s.operandWith q p) (s'.operandWith q' p') := by
  have hequality := sim.equality hp
  refine sim.look hequality rfl rfl fun t => ?_
  obtain ⟨l, n⟩ := t
  cases l with
  | not => exact .passes (sim.map hq (Expr.not n)) (fun ts => rfl) fun ts => rfl
  | _ => exact .stays hequality (fun ts => rfl) fun ts => rfl

theorem operand (hdeep : sim.rel (s.tooDeep : Parse Expr) s'.tooDeep) (levels : Nat) :
    sim.rel (s.operand levels) (s'.operand levels) := by
  induction levels with
  | zero => exact sim.operandWith hdeep hdeep
  | succ levels ih => exact sim.operandWith ih (sim.alternatives ih)

theorem expr (hdeep : sim.rel (s.tooDeep : Parse Expr) s'.tooDeep) (levels : Nat) :
    sim.rel (s.expr levels) (s'.expr levels) := by
  cases levels with
  | zero => exact hdeep
  | succ levels => exact sim.alternatives (sim.operand hdeep levels)

/-! ## §3  More levels -/

/-- If being cut off is related to whatever else may come of a level, the second parser may have
more levels. -/
theorem operand_of_le (hoperand : ∀ k, sim.rel s.tooDeep (s'.operand k))
    (hexpr : ∀ k, sim.rel s.tooDeep (s'.expr k)) {k k' : Nat} (hk : k ≤ k') :
    sim.rel (s.operand k) (s'.operand k') := by
  induction k generalizing k' with
  | zero =>
      cases k' with
      | zero => exact sim.operandWith (hexpr 0) (hexpr 0)
      | succ k' => exact sim.operandWith (hoperand k') (hexpr (k' + 1))
  | succ k ih =>
      obtain ⟨m, rfl⟩ : ∃ m, k' = m + 1 := Nat.exists_eq_add_one.mpr (by omega)
      have hdeeper := ih (Nat.le_of_succ_le_succ hk)
      exact sim.operandWith hdeeper (sim.alternatives hdeeper)

theorem expr_of_le (hoperand : ∀ k, sim.rel s.tooDeep (s'.operand k))
    (hexpr : ∀ k, sim.rel s.tooDeep (s'.expr k)) {k k' : Nat} (hk : k ≤ k') :
    sim.rel (s.expr k) (s'.expr k') := by
  cases k with
  | zero => exact hexpr k'
  | succ k =>
      obtain ⟨m, rfl⟩ : ∃ m, k' = m + 1 := Nat.exists_eq_add_one.mpr (by omega)
      exact sim.alternatives (sim.operand_of_le hoperand hexpr (Nat.le_of_succ_le_succ hk))

end Simulation

end BuildCondition.Expr
