import BuildCondition.Expr.Parser
import BuildCondition.Proofs.Except
import BuildCondition.Proofs.Grammar

/-!
# The parser follows the grammar

Whatever a parser takes from the tokens derives from the nonterminal it stands for, within the
levels it has left (§1). Conversely it takes a derivation as a whole, if there are levels enough
and what follows does not go on with it (§2). Both are shown for one parser at a time, from those
it is made of; the levels tie the knot.
-/

namespace BuildCondition.Expr

/-! ## §1  What is taken derives -/

/-- What the parser takes derives from `c`, and is nested less than `bound` deep. -/
def Accepts (c : Category) (bound : Nat) (p : Parse Expr) : Prop :=
  ∀ ts e rest, p ts = .ok (e, rest) →
    ∃ d used, d < bound ∧ ts = used ++ rest ∧ Derives c d used e

namespace Surroundings

variable {s : Surroundings} {c : Category} {bound : Nat} {p : Parse Expr}

theorem unexpected_ne_ok {α : Type} {ts : List Token} {a : α} : s.unexpected ts ≠ .ok a := by
  intro h
  obtain ⟨t, _, ht⟩ := bind_eq_ok.mp h
  cases ht

theorem tooDeep_ne_ok {α : Type} {ts : List Token} {a : α} : s.tooDeep ts ≠ .ok a := by
  intro h
  obtain ⟨t, _, ht⟩ := bind_eq_ok.mp h
  cases ht

theorem expect_eq_ok {l : Lexeme} {ts rest : List Token} (h : s.expect l ts = .ok rest) :
    ∃ n, ts = ⟨l, n⟩ :: rest := by
  cases ts with
  | nil => exact absurd h unexpected_ne_ok
  | cons t ts =>
      by_cases ht : t.lexeme = l
      · rw [expect, if_pos ht] at h
        cases h
        exact ⟨t.offset, by rw [← ht]⟩
      · rw [expect, if_neg ht] at h
        exact absurd h unexpected_ne_ok

theorem furtherItems_of_eq {sep : Lexeme} {n : Nat} {done : List Expr} {t : Token}
    (ht : t.lexeme = sep) (ts : List Token) :
    furtherItems sep p (n + 1) done (t :: ts) =
      (p ts).bind fun (e, rest) => furtherItems sep p n (e :: done) rest := by
  simp only [furtherItems, if_pos ht]
  cases p ts <;> rfl

theorem furtherItems_of_ne {sep : Lexeme} {n : Nat} {done : List Expr} {t : Token}
    (ht : t.lexeme ≠ sep) (ts : List Token) :
    furtherItems sep p (n + 1) done (t :: ts) = .ok (done.reverse, t :: ts) := by
  simp only [furtherItems, if_neg ht]

theorem accepts_tooDeep : Accepts c bound s.tooDeep :=
  fun _ _ _ h => absurd h tooDeep_ne_ok

/-- The items behind the first extend what has been derived. -/
theorem furtherItems_derives {sep : Lexeme} (hp : Accepts c bound p) :
    ∀ (n : Nat) {d used first done ts es rest}, d < bound → Derives c d used first →
      furtherItems sep p n done ts = .ok (es, rest) →
      ∃ d' used' others, d' < bound ∧ es = done.reverse ++ others ∧
        used ++ ts = used' ++ rest ∧ DerivesList sep c d' used' first others := by
  intro n
  induction n with
  | zero =>
      intro d used first done ts es rest hd hfirst h
      cases h
      exact ⟨d, used, [], hd, by simp, rfl, .last hfirst⟩
  | succ n ih =>
      intro d used first done ts es rest hd hfirst h
      cases ts with
      | nil =>
          cases h
          exact ⟨d, used, [], hd, by simp, rfl, .last hfirst⟩
      | cons t more =>
          by_cases ht : t.lexeme = sep
          · rw [furtherItems_of_eq ht] at h
            obtain ⟨⟨e, rest'⟩, hitem, hmore⟩ := bind_eq_ok.mp h
            obtain ⟨de, usede, hde, rfl, he⟩ := hp _ _ _ hitem
            -- the item just read is the first one of the list that the others extend
            obtain ⟨d', used', others, hd', rfl, hused, hothers⟩ := ih hde he hmore
            refine ⟨max d d', used ++ ⟨sep, t.offset⟩ :: used', e :: others,
              Nat.max_lt.mpr ⟨hd, hd'⟩, by simp, ?_, .more hfirst hothers⟩
            rw [← ht, List.append_assoc, List.cons_append, ← hused]
          · rw [furtherItems_of_ne ht] at h
            cases h
            exact ⟨d, used, [], hd, by simp, rfl, .last hfirst⟩

theorem items_derives {sep : Lexeme} (hp : Accepts c bound p) {ts rest : List Token} {first : Expr}
    {others : List Expr} (h : s.items sep p ts = .ok ((first, others), rest)) :
    ∃ d used, d < bound ∧ ts = used ++ rest ∧ DerivesList sep c d used first others := by
  obtain ⟨⟨e, rest'⟩, hfirst, h⟩ := bind_eq_ok.mp h
  obtain ⟨⟨es, rest''⟩, hothers, h⟩ := map_eq_ok.mp h
  cases h
  obtain ⟨d, used, hd, rfl, he⟩ := hp _ _ _ hfirst
  obtain ⟨d', used', others', hd', rfl, hused, hlist⟩ := furtherItems_derives hp _ hd he hothers
  exact ⟨d', used', hd', hused, by simpa using hlist⟩

theorem accepts_primary (hp : Accepts .expr bound p) :
    Accepts .primary (bound + 1) (s.primary p) := by
  intro ts e rest h
  cases ts with
  | nil => exact absurd h unexpected_ne_ok
  | cons t ts =>
      obtain ⟨l, n⟩ := t
      cases l with
      | leftParen =>
          obtain ⟨⟨e', rest'⟩, hinside, h⟩ := bind_eq_ok.mp h
          obtain ⟨rest'', hclose, h⟩ := map_eq_ok.mp h
          cases h
          obtain ⟨d, used, hd, rfl, he⟩ := hp _ _ _ hinside
          obtain ⟨m, rfl⟩ := expect_eq_ok hclose
          exact ⟨d + 1, ⟨.leftParen, n⟩ :: (used ++ [⟨.rightParen, m⟩]), Nat.succ_lt_succ hd,
            by simp, .group he⟩
      | functionName name =>
          obtain ⟨ts', hopen, h⟩ := bind_eq_ok.mp h
          obtain ⟨⟨es, rest'⟩, hargs, h⟩ := map_eq_ok.mp h
          cases h
          obtain ⟨m, rfl⟩ := expect_eq_ok hopen
          unfold arguments at hargs
          split at hargs
          · cases hargs
            exact ⟨0, _, Nat.succ_pos bound, rfl, .emptyCall⟩
          · obtain ⟨⟨⟨first, others⟩, rest''⟩, hitems, hargs⟩ := bind_eq_ok.mp hargs
            obtain ⟨remaining, hclose, hargs⟩ := map_eq_ok.mp hargs
            cases hargs
            obtain ⟨d, used, hd, rfl, hlist⟩ := items_derives hp hitems
            obtain ⟨k, rfl⟩ := expect_eq_ok hclose
            exact ⟨d + 1,
              ⟨.functionName name, n⟩ :: ⟨.leftParen, m⟩ :: (used ++ [⟨.rightParen, k⟩]),
              Nat.succ_lt_succ hd, by simp, .call hlist⟩
      | word | quoted | numeral | reference =>
          cases h
          exact ⟨0, _, Nat.succ_pos bound, rfl, .token rfl⟩
      | connective | not | comparison | rightParen | comma => exact absurd h unexpected_ne_ok

/-- Two operands with a comparison between them, if that is among the accepted ones, or one. -/
theorem accepts_compared {outer : Category} {accepted : Comparison → Bool} (hp : Accepts c bound p)
    (hone : ∀ {d ts e}, Derives c d ts e → Derives outer d ts e)
    (htwo : ∀ {op d d' n ls rs l r}, accepted op = true → Derives c d ls l → Derives c d' rs r →
      Derives outer (max d d') (ls ++ ⟨.comparison op, n⟩ :: rs) (.comparison op l r)) :
    Accepts outer bound (compared accepted p) := by
  intro ts e rest h
  obtain ⟨⟨l, rest'⟩, hleft, hnext⟩ := bind_eq_ok.mp h
  obtain ⟨d, used, hd, rfl, hl⟩ := hp _ _ _ hleft
  dsimp only at hnext
  split at hnext
  · rename_i op n more
    by_cases hop : accepted op = true
    · rw [if_pos hop] at hnext
      obtain ⟨⟨r, rest''⟩, hright, hnext⟩ := map_eq_ok.mp hnext
      cases hnext
      obtain ⟨d', used', hd', rfl, hr⟩ := hp _ _ _ hright
      exact ⟨max d d', used ++ ⟨.comparison op, n⟩ :: used', Nat.max_lt.mpr ⟨hd, hd'⟩, by simp,
        htwo hop hl hr⟩
    · rw [if_neg hop] at hnext
      cases hnext
      exact ⟨d, used, hd, rfl, hone hl⟩
  · cases hnext
    exact ⟨d, used, hd, rfl, hone hl⟩

theorem accepts_relation (hp : Accepts .expr bound p) :
    Accepts .relation (bound + 1) (compared (fun op => !op.isEquality) (s.primary p)) :=
  accepts_compared (accepts_primary hp) .lonePrimary fun hop => .relation (by simpa using hop)

theorem accepts_equality (hp : Accepts .expr bound p) :
    Accepts .equality (bound + 1) (s.equality p) :=
  accepts_compared (accepts_relation hp) .loneRelation .equality

theorem accepts_chained {outer : Category} {op : Connective} (hp : Accepts c bound p)
    (hchain : ∀ {d ts first others}, DerivesList (.connective op) c d ts first others →
      Derives outer d ts (joined op first others)) :
    Accepts outer bound (s.chained op p) := by
  intro ts e rest h
  obtain ⟨⟨⟨first, others⟩, rest'⟩, hitems, h⟩ := map_eq_ok.mp h
  cases h
  obtain ⟨d, used, hd, rfl, hlist⟩ := items_derives hp hitems
  exact ⟨d, used, hd, rfl, hchain hlist⟩

theorem accepts_alternatives (hp : Accepts .operand bound p) :
    Accepts .expr bound (s.alternatives p) :=
  accepts_chained (accepts_chained hp .conjunction) .expr

theorem accepts_operandWith {negated : Parse Expr} (hnegated : Accepts .operand bound negated)
    (hp : Accepts .expr bound p) : Accepts .operand (bound + 1) (s.operandWith negated p) := by
  intro ts e rest h
  unfold operandWith at h
  split at h
  · obtain ⟨⟨e', rest'⟩, hoperand, h⟩ := map_eq_ok.mp h
    cases h
    obtain ⟨d, used, hd, rfl, he⟩ := hnegated _ _ _ hoperand
    exact ⟨d + 1, _, Nat.succ_lt_succ hd, rfl, .negation he⟩
  · obtain ⟨d, used, hd, rfl, he⟩ := accepts_equality hp _ _ _ h
    exact ⟨d, used, hd, rfl, .operand he⟩

theorem accepts_operand (levels : Nat) : Accepts .operand (levels + 1) (s.operand levels) := by
  induction levels with
  | zero => exact accepts_operandWith accepts_tooDeep accepts_tooDeep
  | succ levels ih => exact accepts_operandWith ih (accepts_alternatives ih)

theorem accepts_expr (levels : Nat) : Accepts .expr levels (s.expr levels) := by
  cases levels with
  | zero => exact accepts_tooDeep
  | succ levels => exact accepts_alternatives (accepts_operand levels)

/-! ## §2  What derives is taken -/

/-- The parser of a nonterminal with so many levels left for what is inside of it. -/
def reader (s : Surroundings) (levels : Nat) : Category → Parse Expr
  | .expr => s.alternatives (s.operand levels)
  | .conjunction => s.chained .and (s.operand levels)
  | .operand => s.operand levels
  | .equality => s.equality (s.expr levels)
  | .relation => compared (fun op => !op.isEquality) (s.primary (s.expr levels))
  | .primary => s.primary (s.expr levels)

end Surroundings

/-- The lexemes by which a parser would go on behind a complete derivation. -/
def goesOn : Category → Lexeme → Bool
  | .expr, .connective _ => true
  | .conjunction, .connective op => op = .and
  | .relation, .comparison op => !op.isEquality
  | .expr, .comparison _ | .conjunction, .comparison _ | .operand, .comparison _
  | .equality, .comparison _ => true
  | _, _ => false

/-- What follows does not go on with a derivation. -/
def Ends (c : Category) (rest : List Token) : Prop :=
  ∀ t ∈ rest.head?, goesOn c t.lexeme = false

theorem Ends.weaken {c c' : Category} {rest : List Token} (h : Ends c rest)
    (hc : ∀ l, goesOn c' l = true → goesOn c l = true) : Ends c' rest := by
  intro t ht
  cases hl : goesOn c' t.lexeme with
  | false => rfl
  | true => rw [← h t ht, hc _ hl]

theorem Ends.ne {c : Category} {sep : Lexeme} {rest : List Token} (h : Ends c rest)
    (hsep : goesOn c sep = true) : ∀ t ∈ rest.head?, t.lexeme ≠ sep := by
  rintro t ht rfl
  rw [h t ht] at hsep
  cases hsep

theorem ends_cons {c : Category} {t : Token} {rest : List Token} (h : goesOn c t.lexeme = false) :
    Ends c (t :: rest) := by
  intro u hu
  cases hu
  exact h

theorem ends_primary (rest : List Token) : Ends .primary rest :=
  fun t _ => by cases t.lexeme <;> rfl

namespace Surroundings

variable {s : Surroundings} {levels : Nat} {p : Parse Expr} {rest : List Token}

theorem operand_of_not (n : Nat) (ts : List Token) :
    s.operand (levels + 1) (⟨.not, n⟩ :: ts) =
      (s.operand levels ts).map fun (e, rest) => (not n e, rest) := rfl

theorem operand_of_ne_not {t : Token} {ts : List Token} (h : t.lexeme ≠ .not) :
    s.operand levels (t :: ts) = s.equality (s.expr levels) (t :: ts) := by
  obtain ⟨l, n⟩ := t
  cases levels with
  | zero => cases l <;> first | exact absurd rfl h | rfl
  | succ levels => cases l <;> first | exact absurd rfl h | rfl

theorem compared_alone {accepted : Comparison → Bool} {ts : List Token} {e : Expr}
    (hp : p ts = .ok (e, rest))
    (hrest : ∀ t ∈ rest.head?, ∀ op, t.lexeme = .comparison op → accepted op = false) :
    compared accepted p ts = .ok (e, rest) := by
  rw [compared, hp]
  simp only [Except.bind]
  split
  · rename_i op n more
    rw [if_neg (by simp [hrest ⟨.comparison op, n⟩ rfl op rfl])]
  · rfl

theorem compared_both {accepted : Comparison → Bool} {op : Comparison} {ts more : List Token}
    {n : Nat} {l r : Expr} (hop : accepted op = true)
    (hl : p ts = .ok (l, ⟨.comparison op, n⟩ :: more)) (hr : p more = .ok (r, rest)) :
    compared accepted p ts = .ok (comparison op l r, rest) := by
  rw [compared, hl]
  simp only [Except.bind, if_pos hop, hr]
  rfl

theorem furtherItems_stop {sep : Lexeme} {n : Nat} {done : List Expr}
    (h : ∀ t ∈ rest.head?, t.lexeme ≠ sep) :
    furtherItems sep p n done rest = .ok (done.reverse, rest) := by
  cases n with
  | zero => rfl
  | succ n =>
      cases rest with
      | nil => rfl
      | cons t rest => exact furtherItems_of_ne (h t rfl) rest

/-- A list is read item by item if its items are. -/
theorem items_eq_ok {sep : Lexeme} {ts rest' : List Token} {first : Expr} {others : List Expr}
    (hfirst : p ts = .ok (first, rest'))
    (hothers : furtherItems sep p s.count [] rest' = .ok (others, rest)) :
    s.items sep p ts = .ok ((first, others), rest) := by
  rw [items, hfirst]
  simp only [Except.bind, hothers]
  rfl

theorem chained_eq_ok {op : Connective} {ts rest' : List Token} {first : Expr}
    {others : List Expr} (hfirst : p ts = .ok (first, rest'))
    (hothers : furtherItems (.connective op) p s.count [] rest' = .ok (others, rest)) :
    s.chained op p ts = .ok (joined op first others, rest) := by
  rw [chained, items_eq_ok hfirst hothers]
  rfl

theorem arguments_of_ne_rightParen {t : Token} {ts : List Token} (h : t.lexeme ≠ .rightParen) :
    s.arguments p (t :: ts) =
      (s.items .comma p (t :: ts)).bind fun ((first, others), rest) =>
        (s.expect .rightParen rest).map fun rest => (first :: others, rest) := by
  obtain ⟨l, n⟩ := t
  cases l <;> first | exact absurd rfl h | rfl

theorem primary_of_operand? {t : Token} {ts : List Token} {e : Expr} (h : t.operand? = some e) :
    s.primary p (t :: ts) = .ok (e, ts) := by
  obtain ⟨l, n⟩ := t
  cases l <;> cases h <;> rfl

end Surroundings

end BuildCondition.Expr

namespace BuildCondition

open BuildCondition.Expr Surroundings

variable {s : Surroundings}

mutual

/-- **A parser takes every derivation.** The levels have to suffice for its nesting, and what
follows must not go on with it. -/
theorem Derives.reads : ∀ {c d ts e}, Derives c d ts e → ∀ {levels rest}, d ≤ levels →
    ts.length ≤ s.count → Ends c rest → s.reader levels c (ts ++ rest) = .ok (e, rest)
  | _, _, _, _, .expr h, levels, rest, hd, hlen, hrest => by
      have hitem : Ends .conjunction rest := hrest.weaken fun l hl => by
        cases l <;> first | rfl | exact hl
      obtain ⟨rest', hfirst, hothers⟩ := h.reads hd hlen hitem rfl (hrest.ne rfl)
      exact chained_eq_ok hfirst (hothers _ [] hlen)
  | _, _, _, _, .conjunction h, levels, rest, hd, hlen, hrest => by
      have hitem : Ends .operand rest := hrest.weaken fun l hl => by
        cases l <;> first | rfl | cases hl
      obtain ⟨rest', hfirst, hothers⟩ := h.reads hd hlen hitem rfl (hrest.ne rfl)
      exact chained_eq_ok hfirst (hothers _ [] hlen)
  | _, _, _, _, @Derives.negation d n ts e h, levels, rest, hd, hlen, hrest => by
      obtain ⟨k, rfl⟩ : ∃ k, levels = k + 1 := Nat.exists_eq_add_one.mpr (by omega)
      have hoperand := h.reads (Nat.le_of_succ_le_succ hd) (Nat.le_of_succ_le hlen) hrest
      show s.operand (k + 1) (⟨.not, n⟩ :: (ts ++ rest)) = _
      rw [operand_of_not]
      show ((s.reader k .operand) (ts ++ rest)).map _ = _
      rw [hoperand]
      rfl
  | _, _, _, _, .operand h, levels, rest, hd, hlen, hrest => by
      have hequality := h.reads hd hlen
        (hrest.weaken fun l hl => by cases l <;> first | rfl | cases hl)
      -- without a negation in front, the parser of operands is that of equalities
      obtain ⟨t, us, rfl, ht⟩ := h.opens
      exact (operand_of_ne_not (ht.2 (.inl rfl))).trans hequality
  | _, _, _, _, @Derives.equality op d d' n ls rs l r hop hl hr, levels, rest, hd, hlen, hrest => by
      rw [List.length_append, List.length_cons] at hlen
      have hleft : s.reader levels .relation (ls ++ ⟨.comparison op, n⟩ :: (rs ++ rest)) =
          .ok (l, ⟨.comparison op, n⟩ :: (rs ++ rest)) :=
        hl.reads (by omega) (by omega) (ends_cons (by simp [goesOn, hop]))
      have hright : s.reader levels .relation (rs ++ rest) = .ok (r, rest) :=
        hr.reads (by omega) (by omega)
          (hrest.weaken fun l hl => by cases l <;> first | rfl | cases hl)
      rw [List.append_assoc, List.cons_append]
      exact compared_both hop hleft hright
  | _, _, _, _, .loneRelation h, levels, rest, hd, hlen, hrest => by
      have hrelation := h.reads hd hlen
        (hrest.weaken fun l hl => by cases l <;> first | rfl | cases hl)
      exact compared_alone hrelation fun t ht op hop => absurd hop (hrest.ne rfl t ht)
  | _, _, _, _, @Derives.relation op d d' n ls rs l r hop hl hr, levels, rest, hd, hlen, _ => by
      rw [List.length_append, List.length_cons] at hlen
      have hleft : s.reader levels .primary (ls ++ ⟨.comparison op, n⟩ :: (rs ++ rest)) =
          .ok (l, ⟨.comparison op, n⟩ :: (rs ++ rest)) :=
        hl.reads (by omega) (by omega) (ends_primary _)
      have hright : s.reader levels .primary (rs ++ rest) = .ok (r, rest) :=
        hr.reads (by omega) (by omega) (ends_primary _)
      rw [List.append_assoc, List.cons_append]
      exact compared_both (by simp [hop]) hleft hright
  | _, _, _, _, .lonePrimary h, levels, rest, hd, hlen, hrest => by
      refine compared_alone (h.reads hd hlen (ends_primary _)) fun t ht op hop => ?_
      have := hrest t ht
      rw [hop] at this
      exact this
  | _, _, _, _, @Derives.group d m n ts e h, levels, rest, hd, hlen, _ => by
      obtain ⟨k, rfl⟩ : ∃ k, levels = k + 1 := Nat.exists_eq_add_one.mpr (by omega)
      rw [List.length_cons, List.length_append] at hlen
      -- an expression ends before the parenthesis, whatever follows that
      have hinside : s.reader k .expr (ts ++ ⟨.rightParen, n⟩ :: rest) =
          .ok (e, ⟨.rightParen, n⟩ :: rest) :=
        h.reads (by omega) (by omega) (ends_cons rfl)
      rw [List.cons_append, List.append_assoc]
      show ((s.reader k .expr) (ts ++ ⟨.rightParen, n⟩ :: rest)).bind _ = _
      rw [hinside]
      rfl
  | _, _, _, _, .emptyCall, levels, rest, hd, hlen, _ => rfl
  | _, _, _, _, @Derives.call name d k m n ts first others h, levels, rest, hd, hlen, _ => by
      obtain ⟨k, rfl⟩ : ∃ k, levels = k + 1 := Nat.exists_eq_add_one.mpr (by omega)
      rw [List.length_cons, List.length_cons, List.length_append] at hlen
      obtain ⟨rest', hfirst, hothers⟩ : ∃ rest',
          s.reader k .expr (ts ++ ⟨.rightParen, n⟩ :: rest) = .ok (first, rest') ∧ _ :=
        h.reads (by omega) (by omega) (ends_cons rfl) rfl (by simp)
      have hitems := items_eq_ok hfirst (hothers s.count [] (by omega))
      -- the arguments do not start with the parenthesis of an empty call
      obtain ⟨t, us, rfl, ht⟩ := h.opens
      rw [List.cons_append, List.cons_append, List.append_assoc]
      show (s.arguments (s.reader k .expr) (t :: us ++ ⟨.rightParen, n⟩ :: rest)).map _ = _
      rw [List.cons_append, arguments_of_ne_rightParen ht.1, ← List.cons_append, hitems]
      simp only [Except.bind, expect, if_true]
      rfl
  | _, _, _, _, .token h, levels, rest, hd, hlen, _ => primary_of_operand? h

theorem DerivesList.reads : ∀ {sep c d ts first others}, DerivesList sep c d ts first others →
    ∀ {levels rest}, d ≤ levels → ts.length ≤ s.count → Ends c rest → goesOn c sep = false →
    (∀ t ∈ rest.head?, t.lexeme ≠ sep) →
    ∃ rest', s.reader levels c (ts ++ rest) = .ok (first, rest') ∧
      ∀ n done, ts.length ≤ n →
        furtherItems sep (s.reader levels c) n done rest' = .ok (done.reverse ++ others, rest)
  | _, _, _, _, _, _, .last h, levels, rest, hd, hlen, hrest, hsep, hstop => by
      refine ⟨rest, h.reads hd hlen hrest, fun n done _ => ?_⟩
      rw [furtherItems_stop hstop, List.append_nil]
  | _, _, _, _, _, _, @DerivesList.more sep c d d' k ts us e e' es h hs,
      levels, rest, hd, hlen, hrest, hsep, hstop => by
      rw [List.length_append, List.length_cons] at hlen
      -- an item ends before the separator, the last one before what ends the list
      have hitem : s.reader levels c (ts ++ ⟨sep, k⟩ :: (us ++ rest)) =
          .ok (e, ⟨sep, k⟩ :: (us ++ rest)) :=
        h.reads (by omega) (by omega) (ends_cons hsep)
      obtain ⟨rest', hnext, hothers⟩ : ∃ rest',
          s.reader levels c (us ++ rest) = .ok (e', rest') ∧ _ :=
        hs.reads (by omega) (by omega) hrest hsep hstop
      refine ⟨⟨sep, k⟩ :: (us ++ rest), by simpa using hitem, fun n done hn => ?_⟩
      rw [List.length_append, List.length_cons] at hn
      obtain ⟨m, rfl⟩ : ∃ m, n = m + 1 := Nat.exists_eq_add_one.mpr (by omega)
      have hstep : furtherItems sep (s.reader levels c) (m + 1) done
          (⟨sep, k⟩ :: (us ++ rest)) = _ :=
        furtherItems_of_eq rfl (us ++ rest)
      rw [hstep, hnext]
      show furtherItems sep _ m (e' :: done) rest' = _
      rw [hothers m (e' :: done) (by omega), List.reverse_cons, List.append_assoc]
      rfl

end

end BuildCondition
