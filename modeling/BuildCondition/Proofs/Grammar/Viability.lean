import BuildCondition.Proofs.Grammar.Parser

/-!
# Where a parser gives up

A parser fails at the first token that cannot be right. What it has taken until then is the
beginning of a derivation from the nonterminal it stands for (§1): no parser goes on once its tokens
are past saving. Like its counterpart on success, this is shown for one parser at a time, and the
levels tie the knot (§2).
-/

namespace BuildCondition

/-! ## §1  Beginnings -/

/-- Something that derives from `c` begins with the tokens. -/
def Begins (c : Category) (ts : List Token) : Prop :=
  ∃ us d e, Derives c d (ts ++ us) e

/-- Some list begins with the tokens. -/
def BeginsList (sep : Lexeme) (c : Category) (ts : List Token) : Prop :=
  ∃ us d first others, DerivesList sep c d (ts ++ us) first others

theorem Derives.begins {c : Category} {d : Nat} {ts : List Token} {e : Expr}
    (h : Derives c d ts e) : Begins c ts := by
  refine ⟨[], d, e, ?_⟩
  rwa [List.append_nil]

theorem DerivesList.begins {sep : Lexeme} {c : Category} {d : Nat} {ts : List Token} {first : Expr}
    {others : List Expr} (h : DerivesList sep c d ts first others) : BeginsList sep c ts := by
  refine ⟨[], d, first, others, ?_⟩
  rwa [List.append_nil]

/-- Whatever the category, something derives from it. -/
theorem begins_nil (c : Category) : Begins c [] := by
  have hword : Derives .primary 0 [⟨.word "", 0⟩] (.ofWord 0 "") := .token rfl
  cases c with
  | expr => exact ⟨_, _, _, hword.to_operand.to_expr⟩
  | conjunction => exact ⟨_, _, _, hword.to_operand.to_conjunction⟩
  | operand => exact ⟨_, _, _, hword.to_operand⟩
  | equality => exact ⟨_, _, _, .loneRelation (.lonePrimary hword)⟩
  | relation => exact ⟨_, _, _, .lonePrimary hword⟩
  | primary => exact ⟨_, _, _, hword⟩

section Growing

variable {sep : Lexeme} {c : Category} {d m n : Nat} {ts us : List Token} {e : Expr}

theorem Begins.first (h : Begins c ts) : BeginsList sep c ts := by
  obtain ⟨us, d, e, h⟩ := h
  exact ⟨us, d, e, [], .last h⟩

theorem BeginsList.behind (he : Derives c d ts e) (h : BeginsList sep c us) :
    BeginsList sep c (ts ++ ⟨sep, n⟩ :: us) := by
  obtain ⟨vs, d', first, others, h⟩ := h
  refine ⟨vs, max d d', e, first :: others, ?_⟩
  rw [List.append_assoc, List.cons_append]
  exact .more he h

theorem Begins.group (h : Begins .expr ts) : Begins .primary (⟨.leftParen, m⟩ :: ts) := by
  obtain ⟨us, d, e, h⟩ := h
  refine ⟨us ++ [⟨.rightParen, 0⟩], d + 1, e, ?_⟩
  rw [List.cons_append, ← List.append_assoc]
  exact .group h

theorem begins_name (name : String) : Begins .primary [⟨.functionName name, n⟩] :=
  ⟨[⟨.leftParen, 0⟩, ⟨.rightParen, 0⟩], 0, _, .emptyCall⟩

theorem BeginsList.call {name : String} (h : BeginsList .comma .expr ts) :
    Begins .primary (⟨.functionName name, n⟩ :: ⟨.leftParen, m⟩ :: ts) := by
  obtain ⟨us, d, first, others, h⟩ := h
  refine ⟨us ++ [⟨.rightParen, 0⟩], d + 1, .call n name (first :: others), ?_⟩
  rw [List.cons_append, List.cons_append, ← List.append_assoc]
  exact .call h

theorem Begins.negation (h : Begins .operand ts) : Begins .operand (⟨.not, n⟩ :: ts) := by
  obtain ⟨us, d, e, h⟩ := h
  exact ⟨us, d + 1, .not n e, .negation h⟩

theorem Begins.operand (h : Begins .equality ts) : Begins .operand ts := by
  obtain ⟨us, d, e, h⟩ := h
  exact ⟨us, d, e, .operand h⟩

/-- One comparison is made like the other: what begins its right operand, begins it. -/
theorem Begins.behindLeft {outer : Category} {op : Comparison}
    (htwo : ∀ {d d' n ls rs l r}, Derives c d ls l → Derives c d' rs r →
      Derives outer (max d d') (ls ++ ⟨.comparison op, n⟩ :: rs) (.comparison op l r))
    (he : Derives c d ts e) (h : Begins c us) : Begins outer (ts ++ ⟨.comparison op, n⟩ :: us) := by
  obtain ⟨vs, d', r, h⟩ := h
  refine ⟨vs, max d d', .comparison op e r, ?_⟩
  rw [List.append_assoc, List.cons_append]
  exact htwo he h

end Growing

namespace Expr.Surroundings

/-! ## §2  Parsers that fail -/

/-- What a failure can be about if a parser has taken `used` and stands before `here`: the tokens
break off there, or what stands there is not expected or, if at least `bound` tokens have been
taken, nested too deeply. -/
inductive Blames (s : Surroundings) (bound : Nat) (used here : List Token) : Failure → Prop
  | ending {f : Failure} : here = [] → s.ending = .error f → Blames s bound used here f
  | unexpected {t : Terminal} : s.here here = .ok t →
      Blames s bound used here (Failure.foundAt .unexpectedToken (t.offset + 1) t.shown)
  | tooDeep {t : Terminal} : bound ≤ used.length → s.here here = .ok t →
      Blames s bound used here
        (Failure.ofCause .nestedTooDeeply (.beyond s.limit) (t.offset + 1))

variable {s : Surroundings} {c : Category} {bound : Nat} {p : Parse Expr} {f : Failure}
  {used here : List Token}

theorem Blames.mono {bound' : Nat} {used' : List Token} (h : s.Blames bound used here f)
    (hused : bound ≤ used.length → bound' ≤ used'.length) : s.Blames bound' used' here f := by
  cases h with
  | ending hhere hend => exact .ending hhere hend
  | unexpected ht => exact .unexpected ht
  | tooDeep hbound ht => exact .tooDeep (hused hbound) ht

theorem blames_ending {ts : List Token} (h : s.here ts = .error f) :
    s.Blames bound used ts f := by
  cases ts with
  | nil => exact .ending rfl (map_eq_error.mp h)
  | cons t ts => cases h

theorem blames_unexpected {α : Type} {ts : List Token}
    (h : (s.unexpected ts : Except Failure α) = .error f) : s.Blames bound used ts f := by
  rcases bind_eq_error.mp h with h | ⟨t, ht, h⟩
  · exact blames_ending h
  · cases h
    exact .unexpected ht

theorem blames_tooDeep {α : Type} {ts : List Token}
    (h : (s.tooDeep ts : Except Failure α) = .error f) : s.Blames 0 [] ts f := by
  rcases bind_eq_error.mp h with h | ⟨t, ht, h⟩
  · exact blames_ending h
  · cases h
    exact .tooDeep (Nat.le_refl 0) ht

theorem blames_expect {l : Lexeme} {ts : List Token} (h : s.expect l ts = .error f) :
    s.Blames bound used ts f := by
  cases ts with
  | nil => exact blames_unexpected h
  | cons t ts =>
      by_cases ht : t.lexeme = l
      · rw [expect, if_pos ht] at h
        cases h
      · rw [expect, if_neg ht] at h
        exact blames_unexpected h

/-- A parser that fails has taken the beginning of something that derives from `c`, and `bound`
levels of nesting are not exceeded with fewer tokens. -/
def Rejects (s : Surroundings) (c : Category) (bound : Nat) (p : Parse Expr) : Prop :=
  ∀ ts f, p ts = .error f →
    ∃ used here, ts = used ++ here ∧ Begins c used ∧ s.Blames bound used here f

theorem rejects_tooDeep : s.Rejects c 0 s.tooDeep :=
  fun ts _ h => ⟨[], ts, rfl, begins_nil c, blames_tooDeep h⟩

/-- The items behind the first begin a list with it. -/
theorem furtherItems_rejects {sep : Lexeme} (haccepts : Accepts c bound p)
    (hrejects : s.Rejects c bound p) : ∀ (n : Nat) {d taken first done ts},
      Derives c d taken first → furtherItems sep p n done ts = .error f →
      ∃ used here, ts = used ++ here ∧ BeginsList sep c (taken ++ used) ∧
        s.Blames bound used here f := by
  intro n
  induction n with
  | zero =>
      intro d taken first done ts hfirst h
      cases h
  | succ n ih =>
      intro d taken first done ts hfirst h
      cases ts with
      | nil => cases h
      | cons t more =>
          by_cases ht : t.lexeme = sep
          · rw [furtherItems_of_eq ht] at h
            obtain ⟨l, k⟩ := t
            obtain rfl : l = sep := ht
            rcases bind_eq_error.mp h with hitem | ⟨⟨e, rest⟩, hitem, hmore⟩
            · obtain ⟨used, here, rfl, hbegins, hblames⟩ := hrejects _ _ hitem
              exact ⟨⟨l, k⟩ :: used, here, rfl, hbegins.first.behind hfirst,
                hblames.mono Nat.le_succ_of_le⟩
            · -- the item just read is the first one of the list that begins here
              obtain ⟨de, usede, _, rfl, he⟩ := haccepts _ _ _ hitem
              obtain ⟨used, here, rfl, hbegins, hblames⟩ := ih he hmore
              refine ⟨⟨l, k⟩ :: (usede ++ used), here, by simp, hbegins.behind hfirst,
                hblames.mono fun hle => ?_⟩
              rw [List.length_cons, List.length_append]
              omega
          · rw [furtherItems_of_ne ht] at h
            cases h

theorem items_rejects {sep : Lexeme} (haccepts : Accepts c bound p)
    (hrejects : s.Rejects c bound p) {ts : List Token} (h : s.items sep p ts = .error f) :
    ∃ used here, ts = used ++ here ∧ BeginsList sep c used ∧ s.Blames bound used here f := by
  rcases bind_eq_error.mp h with hfirst | ⟨⟨first, rest⟩, hfirst, hothers⟩
  · obtain ⟨used, here, rfl, hbegins, hblames⟩ := hrejects _ _ hfirst
    exact ⟨used, here, rfl, hbegins.first, hblames⟩
  · obtain ⟨d, taken, _, rfl, he⟩ := haccepts _ _ _ hfirst
    obtain ⟨used, here, rfl, hbegins, hblames⟩ :=
      furtherItems_rejects haccepts hrejects _ he (map_eq_error.mp hothers)
    refine ⟨taken ++ used, here, by simp, hbegins, hblames.mono fun hle => ?_⟩
    rw [List.length_append]
    omega

/-- Where a list is followed by what has to follow it, all of it has been taken. -/
theorem arguments_rejects (haccepts : Accepts .expr bound p) (hrejects : s.Rejects .expr bound p)
    {ts : List Token} (h : s.arguments p ts = .error f) :
    ∃ used here, ts = used ++ here ∧ BeginsList .comma .expr used ∧ s.Blames bound used here f := by
  unfold arguments at h
  split at h
  · cases h
  · rcases bind_eq_error.mp h with hitems | ⟨⟨⟨first, others⟩, rest⟩, hitems, hclose⟩
    · exact items_rejects haccepts hrejects hitems
    · obtain ⟨d, used, _, rfl, hlist⟩ := items_derives haccepts hitems
      exact ⟨used, rest, rfl, hlist.begins, blames_expect (map_eq_error.mp hclose)⟩

theorem rejects_primary (haccepts : Accepts .expr bound p) (hrejects : s.Rejects .expr bound p) :
    s.Rejects .primary (bound + 1) (s.primary p) := by
  intro ts f h
  cases ts with
  | nil => exact ⟨[], [], rfl, begins_nil _, blames_unexpected h⟩
  | cons t ts =>
      obtain ⟨l, n⟩ := t
      cases l with
      | leftParen =>
          rcases bind_eq_error.mp h with hinside | ⟨⟨e, rest⟩, hinside, hclose⟩
          · obtain ⟨used, here, rfl, hbegins, hblames⟩ := hrejects _ _ hinside
            exact ⟨⟨.leftParen, n⟩ :: used, here, rfl, hbegins.group, hblames.mono Nat.succ_le_succ⟩
          · obtain ⟨d, used, _, rfl, he⟩ := haccepts _ _ _ hinside
            exact ⟨⟨.leftParen, n⟩ :: used, rest, rfl, he.begins.group,
              blames_expect (map_eq_error.mp hclose)⟩
      | functionName name =>
          rcases bind_eq_error.mp h with hopen | ⟨ts', hopen, harguments⟩
          · exact ⟨[⟨.functionName name, n⟩], ts, rfl, begins_name name, blames_expect hopen⟩
          · obtain ⟨m, rfl⟩ := expect_eq_ok hopen
            obtain ⟨used, here, rfl, hbegins, hblames⟩ :=
              arguments_rejects haccepts hrejects (map_eq_error.mp harguments)
            refine ⟨⟨.functionName name, n⟩ :: ⟨.leftParen, m⟩ :: used, here, rfl, hbegins.call,
              hblames.mono fun hle => ?_⟩
            rw [List.length_cons, List.length_cons]
            omega
      | word | quoted | numeral | reference => cases h
      | connective | not | comparison | rightParen | comma =>
          exact ⟨[], _, rfl, begins_nil _, blames_unexpected h⟩

/-- One comparison is parsed like the other. -/
theorem rejects_compared {outer : Category} {accepted : Comparison → Bool}
    (haccepts : Accepts c bound p) (hrejects : s.Rejects c bound p)
    (hone : ∀ {d ts e}, Derives c d ts e → Derives outer d ts e)
    (htwo : ∀ {op d d' n ls rs l r}, accepted op = true → Derives c d ls l → Derives c d' rs r →
      Derives outer (max d d') (ls ++ ⟨.comparison op, n⟩ :: rs) (.comparison op l r)) :
    s.Rejects outer bound (compared accepted p) := by
  intro ts f h
  rcases bind_eq_error.mp h with hleft | ⟨⟨l, rest⟩, hleft, hright⟩
  · obtain ⟨used, here, rfl, ⟨us, d, e, he⟩, hblames⟩ := hrejects _ _ hleft
    exact ⟨used, here, rfl, ⟨us, d, e, hone he⟩, hblames⟩
  · obtain ⟨d, taken, _, rfl, hl⟩ := haccepts _ _ _ hleft
    dsimp only at hright
    split at hright
    · rename_i op n more
      by_cases hop : accepted op = true
      · rw [if_pos hop] at hright
        obtain ⟨used, here, rfl, hbegins, hblames⟩ := hrejects _ _ (map_eq_error.mp hright)
        refine ⟨taken ++ ⟨.comparison op, n⟩ :: used, here, by simp,
          hbegins.behindLeft (htwo hop) hl, hblames.mono fun hle => ?_⟩
        rw [List.length_append, List.length_cons]
        omega
      · rw [if_neg hop] at hright
        cases hright
    · cases hright

theorem rejects_relation (haccepts : Accepts .expr bound p) (hrejects : s.Rejects .expr bound p) :
    s.Rejects .relation (bound + 1) (compared (fun op => !op.isEquality) (s.primary p)) :=
  rejects_compared (accepts_primary haccepts) (rejects_primary haccepts hrejects) .lonePrimary
    fun hop => .relation (by simpa using hop)

theorem rejects_equality (haccepts : Accepts .expr bound p) (hrejects : s.Rejects .expr bound p) :
    s.Rejects .equality (bound + 1) (s.equality p) :=
  rejects_compared (accepts_relation haccepts) (rejects_relation haccepts hrejects) .loneRelation
    .equality

theorem rejects_chained {outer : Category} {op : Connective} (haccepts : Accepts c bound p)
    (hrejects : s.Rejects c bound p)
    (hchain : ∀ {d ts first others}, DerivesList (.connective op) c d ts first others →
      Derives outer d ts (joined op first others)) :
    s.Rejects outer bound (s.chained op p) := by
  intro ts f h
  obtain ⟨used, here, rfl, ⟨us, d, first, others, hlist⟩, hblames⟩ :=
    items_rejects haccepts hrejects (map_eq_error.mp h)
  exact ⟨used, here, rfl, ⟨us, d, _, hchain hlist⟩, hblames⟩

theorem rejects_alternatives (haccepts : Accepts .operand bound p)
    (hrejects : s.Rejects .operand bound p) : s.Rejects .expr bound (s.alternatives p) :=
  rejects_chained (accepts_chained haccepts .conjunction)
    (rejects_chained haccepts hrejects .conjunction) .expr

theorem rejects_operandWith {negated : Parse Expr}
    (hnegated : s.Rejects .operand bound negated) (haccepts : Accepts .expr bound p)
    (hrejects : s.Rejects .expr bound p) :
    s.Rejects .operand (bound + 1) (s.operandWith negated p) := by
  intro ts f h
  unfold operandWith at h
  split at h
  · rename_i n ts
    obtain ⟨used, here, rfl, hbegins, hblames⟩ := hnegated _ _ (map_eq_error.mp h)
    exact ⟨⟨.not, n⟩ :: used, here, rfl, hbegins.negation, hblames.mono Nat.succ_le_succ⟩
  · obtain ⟨used, here, rfl, hbegins, hblames⟩ := rejects_equality haccepts hrejects _ _ h
    exact ⟨used, here, rfl, hbegins.operand, hblames⟩

theorem rejects_operand (levels : Nat) : s.Rejects .operand (levels + 1) (s.operand levels) := by
  induction levels with
  | zero => exact rejects_operandWith rejects_tooDeep accepts_tooDeep rejects_tooDeep
  | succ levels ih =>
      exact rejects_operandWith ih (accepts_alternatives (accepts_operand levels))
        (rejects_alternatives (accepts_operand levels) ih)

theorem rejects_expr (levels : Nat) : s.Rejects .expr levels (s.expr levels) := by
  cases levels with
  | zero => exact rejects_tooDeep
  | succ levels => exact rejects_alternatives (accepts_operand levels) (rejects_operand levels)

end Expr.Surroundings

/-- **Where putting a condition together fails, an expression has begun.** -/
theorem begins_of_ofLexed {limit : Nat} {l : Lexed} {f : Failure}
    (h : Expr.ofLexed limit l = .error f) :
    ∃ used here, l.tokens = used ++ here ∧ Begins .expr used ∧
      Expr.Surroundings.Blames ⟨limit, l.ending, l.tokens.length⟩ limit used here f := by
  rcases bind_eq_error.mp h with h | ⟨⟨e, rest⟩, he, h⟩
  · exact Expr.Surroundings.rejects_expr limit _ _ h
  · -- an expression has been found, and something is left of the tokens or of how they end
    obtain ⟨d, used, _, hused, he⟩ := Expr.Surroundings.accepts_expr limit _ _ _ he
    refine ⟨used, rest, hused, he.begins, ?_⟩
    cases rest with
    | nil => exact .ending rfl (map_eq_error.mp h)
    | cons t rest => exact Expr.Surroundings.blames_unexpected h

end BuildCondition
