import BuildCondition.Proofs.Lexeme.Brackets

/-!
# The same end found in different ways

A reference is read by one rule where it stands alone, and by another one where it stands in a
quoted text. Outside quotes, the end of a property is found with a level for each property inside
it, and a quoted text is taken apart by counting parentheses; both come to the same parenthesis
(§1). Where the quoted text itself ends is a matter of its quotes: those in an item list do not end
it, but the list is taken to end at its first closing parenthesis (§2).
-/

namespace BuildCondition

/-! ## §1  Levels and counts -/

namespace Reference

variable {quotes inQuote : Bool} {depth k m : Nat} {cs : List Char}

/-- It does not matter where counting starts. -/
theorem closing?_add (j : Nat) :
    closing? quotes inQuote depth (k + j) cs =
      (closing? quotes inQuote depth k cs).map (· + j) := by
  induction cs generalizing inQuote depth k with
  | nil => rfl
  | cons c cs ih =>
      have hnext : ∀ inQuote depth, closing? quotes inQuote depth (k + j + 1) cs =
          (closing? quotes inQuote depth (k + 1) cs).map (· + j) := by
        intro inQuote depth
        rw [Nat.add_right_comm]
        exact ih
      by_cases hquote : quotes = true ∧ c = '\''
      · rw [closing?_quote hquote, closing?_quote hquote, hnext]
      · by_cases hopen : c = '(' ∧ (!inQuote) = true
        · rw [closing?_open hquote hopen, closing?_open hquote hopen, hnext]
        · by_cases hclose : c = ')' ∧ (!inQuote) = true
          · obtain ⟨rfl, hin⟩ := hclose
            rw [closing?_close hin, closing?_close hin]
            cases depth with
            | zero => rfl
            | succ depth => exact hnext inQuote depth
          · rw [closing?_pass hquote hopen hclose, closing?_pass hquote hopen hclose, hnext]

end Reference

namespace Lexeme

variable {outer : List Level} {level : Level} {depth k m : Nat} {c : Char} {cs : List Char}

namespace Level

/-- How many parentheses are open in some levels together. -/
def opened : List Level → Nat
  | [] => 0
  | level :: outer => level.parens + opened outer

@[simp] theorem parens_fresh : fresh.parens = 0 := rfl

theorem parens_note_open : (level.note k '(').parens = level.parens + 1 := rfl

theorem parens_note_close : (level.note k ')').parens = level.parens - 1 := rfl

theorem parens_note (hopen : c ≠ '(') (hclose : c ≠ ')') :
    (level.note k c).parens = level.parens := by
  rw [note, if_neg hopen, if_neg hclose]
  split
  · rfl
  · split
    · rfl
    · rfl

end Level

/-- All but the last character are taken if as many are taken as there are. -/
theorem eq_length_of_take {n : Nat} {d : Char} (h : (cs ++ [d]).take n = cs) : n = cs.length := by
  have hlength := congrArg List.length h
  rw [List.length_take, List.length_append, List.length_singleton] at hlength
  omega

theorem eq_length_of_referenceUpTo {sigil : Sigil} {n : Nat} {body : List Char}
    (h : referenceUpTo sigil n (body ++ [')']) = reference ⟨sigil, String.ofList body⟩) :
    n = body.length := by
  refine eq_length_of_take (d := ')') ?_
  injection h with h
  injection h with _ h
  exact String.ofList_injective h

/-- In the levels, `depth` parentheses are open besides one. There is one open in every level, for
a level that is fresh stands before its first one. -/
structure Counted (outer : List Level) (level : Level) (depth : Nat) (cs : List Char) : Prop where
  total : level.parens + Level.opened outer = depth + 1
  around : ∀ l ∈ outer, 1 ≤ l.parens
  here : 1 ≤ level.parens ∨ cs.head? = some '('

namespace Counted

theorem pos (h : Counted outer level depth (c :: cs)) (hc : c ≠ '(') : 1 ≤ level.parens := by
  refine h.here.resolve_right fun hhead => hc ?_
  exact Option.some.inj hhead

/-- A level that ends goes on with the one around it. -/
theorem close {around : Level} (h : Counted (around :: outer) level (depth + 1) (')' :: cs))
    (hparens : level.parens ≤ 1) : Counted outer around depth cs := by
  have hpos := h.pos (by decide)
  have htotal := h.total
  rw [Level.opened] at htotal
  exact ⟨by omega, fun l hl => h.around l (List.mem_cons_of_mem _ hl),
    .inl (h.around around List.mem_cons_self)⟩

theorem nest (h : Counted outer level depth ('$' :: cs)) (hhead : cs.head? = some '(') :
    Counted (level.note k '$' :: outer) Level.fresh depth cs := by
  have hparens : (level.note k '$').parens = level.parens :=
    Level.parens_note (by decide) (by decide)
  refine ⟨?_, ?_, .inr hhead⟩
  · rw [Level.parens_fresh, Level.opened, hparens, Nat.zero_add]
    exact h.total
  · rw [List.forall_mem_cons, hparens]
    exact ⟨h.pos (by decide), h.around⟩

theorem openParen (h : Counted outer level depth ('(' :: cs)) :
    Counted outer (level.note k '(') (depth + 1) cs := by
  have htotal := h.total
  refine ⟨?_, h.around, .inl ?_⟩
  · rw [Level.parens_note_open]
    omega
  · rw [Level.parens_note_open]
    omega

theorem closeParen (h : Counted outer level (depth + 1) (')' :: cs)) (hparens : 1 < level.parens) :
    Counted outer (level.note k ')') depth cs := by
  have htotal := h.total
  refine ⟨?_, h.around, .inl ?_⟩
  · rw [Level.parens_note_close]
    omega
  · rw [Level.parens_note_close]
    omega

theorem pass (h : Counted outer level depth (c :: cs)) (hopen : c ≠ '(') (hclose : c ≠ ')') :
    Counted outer (level.note k c) depth cs := by
  have hparens : (level.note k c).parens = level.parens := Level.parens_note hopen hclose
  refine ⟨?_, h.around, .inl ?_⟩
  · rw [hparens]
    exact h.total
  · rw [hparens]
    exact h.pos hopen

end Counted

/-- **Where the levels of a property end, the count of its parentheses does.** -/
theorem closing?_of_propertyEnd (hcount : Counted outer level depth cs)
    (h : propertyEnd outer level k cs = .closed m) :
    Reference.closing? false false depth k cs = some m := by
  induction cs generalizing outer level depth k with
  | nil => cases h
  | cons c cs ih =>
      by_cases hclose : c = ')' ∧ level.parens ≤ 1
      · obtain ⟨rfl, hparens⟩ := hclose
        rw [propertyEnd_close hparens] at h
        rw [Reference.closing?_close rfl]
        cases hblank : level.strayBlank? with
        | some b =>
            rw [hblank] at h
            cases h
        | none =>
            rw [hblank] at h
            have hpos := hcount.pos (by decide)
            have htotal := hcount.total
            cases outer with
            | nil =>
                cases h
                obtain rfl : depth = 0 := by
                  rw [Level.opened] at htotal
                  omega
                rfl
            | cons around outer =>
                -- a parenthesis is open in the level around, too
                have haround := hcount.around around List.mem_cons_self
                rw [Level.opened] at htotal
                obtain ⟨d, rfl⟩ : ∃ d, depth = d + 1 := Nat.exists_eq_add_one.mpr (by omega)
                exact ih (hcount.close hparens) h
      · by_cases hnest : c = '$' ∧ cs.head? = some '('
        · rw [propertyEnd_nest hclose hnest] at h
          obtain ⟨rfl, hhead⟩ := hnest
          rw [Reference.closing?_pass (by simp) (by simp) (by simp)]
          exact ih (hcount.nest hhead) h
        · rw [propertyEnd_note hclose hnest] at h
          by_cases hopen : c = '('
          · subst hopen
            rw [Reference.closing?_open (by simp) ⟨rfl, rfl⟩]
            exact ih hcount.openParen h
          · by_cases hparen : c = ')'
            · subst hparen
              have hparens : 1 < level.parens := by
                refine Nat.lt_of_not_le fun hle => hclose ⟨rfl, hle⟩
              have htotal := hcount.total
              obtain ⟨d, rfl⟩ : ∃ d, depth = d + 1 := Nat.exists_eq_add_one.mpr (by omega)
              rw [Reference.closing?_close rfl]
              exact ih (hcount.closeParen hparens) h
            · rw [Reference.closing?_pass (by simp) (fun hc => hopen hc.1) fun hc => hparen hc.1]
              exact ih (hcount.pass hopen hparen) h

variable {body : List Char}

/-- A body that is read as that of a property, is one if parentheses are counted. -/
theorem closing?_of_readProperty
    (h : readProperty ('(' :: (body ++ [')'])) =
      .ok (reference ⟨.property, String.ofList body⟩)) :
    Reference.closing? false false 0 0 (body ++ [')']) = some body.length := by
  rw [readProperty] at h
  cases hend : propertyEnd [] Level.fresh 1 ('(' :: (body ++ [')'])) with
  | stray => rw [hend] at h; cases h
  | missing => rw [hend] at h; cases h
  | closed k =>
      rw [hend] at h
      have hstart : propertyEnd [] (Level.fresh.note 1 '(') 2 (body ++ [')']) = .closed k := by
        rw [← hend, propertyEnd_note (by simp) (by simp)]
      have hcount : Counted [] (Level.fresh.note 1 '(') 0 (body ++ [')']) :=
        ⟨rfl, fun _ hl => absurd hl List.not_mem_nil, .inl (Nat.le_refl 1)⟩
      have hclosing := closing?_of_propertyEnd hcount hstart
      rw [show 2 = 0 + 2 from rfl, Reference.closing?_add] at hclosing
      obtain ⟨n, hn, rfl⟩ := Option.map_eq_some_iff.mp hclosing
      rw [hn]
      exact congrArg some (eq_length_of_referenceUpTo (Except.ok.inj h))

theorem closing?_of_readItems
    (h : readItems .everything ('(' :: (body ++ [')'])) =
      .ok (reference ⟨.items, String.ofList body⟩)) :
    Reference.closing? true false 0 0 (body ++ [')']) = some body.length := by
  rw [readItems, if_neg (by decide)] at h
  cases hend : Reference.closing? true false 0 0 (body ++ [')']) with
  | none =>
      rw [hend] at h
      dsimp only at h
      split at h <;> cases h
  | some k =>
      rw [hend] at h
      exact congrArg some (eq_length_of_referenceUpTo (Except.ok.inj h))

/-! ## §2  Quotes in item lists -/

/-- Where reading goes on in a quoted text behind a character that does not end it, if `cs`
follows. -/
def Zone.after (zone : Zone) (c : Char) (cs : List Char) : Zone :=
  match zone with
  | .text => if c = '@' ∧ cs.head? = some '(' then .list else .text
  | zone => zone.behind c

/-- Where reading goes on behind a text. -/
def Zone.through (zone : Zone) : List Char → Zone
  | [] => zone
  | c :: cs => (zone.after c cs).through cs

/-- No quote is met outside item lists. -/
def QuotesHidden (zone : Zone) : List Char → Prop
  | [] => True
  | c :: cs => (zone = .text → c ≠ '\'') ∧ QuotesHidden (zone.after c cs) cs

instance decidableQuotesHidden : ∀ zone cs, Decidable (QuotesHidden zone cs)
  | _, [] => .isTrue trivial
  | zone, c :: cs =>
      have := decidableQuotesHidden (zone.after c cs) cs
      inferInstanceAs (Decidable ((zone = .text → c ≠ '\'') ∧ QuotesHidden (zone.after c cs) cs))

variable {zone : Zone} {inQuote : Bool} {rest : List Char}

theorem quoteEnd_after (hc : zone = .text → c ≠ '\'') :
    quoteEnd .everything zone k (c :: cs) = quoteEnd .everything (zone.after c cs) (k + 1) cs := by
  cases zone with
  | text =>
      unfold Zone.after
      by_cases hitems : c = '@' ∧ cs.head? = some '('
      · rw [quoteEnd_text_items hitems, if_neg (by decide)]
        simp only [if_pos hitems]
      · rw [quoteEnd_text_pass (hc rfl) hitems (by simp)]
        simp only [if_neg hitems]
  | list => exact quoteEnd_list (by simp)
  | listQuote => exact quoteEnd_list (by simp)

theorem Zone.after_append (hrest : rest.head? ≠ some '(') :
    zone.after c (cs ++ rest) = zone.after c cs := by
  cases zone with
  | text =>
      have hhead : (cs ++ rest).head? = some '(' ↔ cs.head? = some '(' := by
        cases cs with
        | nil => simp [hrest]
        | cons d cs => rfl
      unfold Zone.after
      simp only [hhead]
  | list => rfl
  | listQuote => rfl

/-- Reading passes a text whose quotes are hidden. -/
theorem quoteEnd_through (hrest : rest.head? ≠ some '(') (h : QuotesHidden zone cs) :
    quoteEnd .everything zone k (cs ++ rest) =
      quoteEnd .everything (zone.through cs) (k + cs.length) rest := by
  induction cs generalizing zone k with
  | nil => rfl
  | cons c cs ih =>
      rw [List.cons_append, quoteEnd_after h.1, Zone.after_append hrest, ih h.2, List.length_cons,
        Nat.add_right_comm]
      rfl

/-- Reading passes no other text. -/
theorem quotesHidden_of_quoteEnd (hrest : rest.head? ≠ some '(')
    (h : quoteEnd .everything zone k (cs ++ rest) = .ok m) (hm : k + cs.length ≤ m) :
    QuotesHidden zone cs := by
  induction cs generalizing zone k with
  | nil => trivial
  | cons c cs ih =>
      rw [List.length_cons] at hm
      have hc : zone = .text → c ≠ '\'' := by
        rintro rfl rfl
        rw [List.cons_append, quoteEnd_text_quote] at h
        cases h
        omega
      rw [List.cons_append, quoteEnd_after hc, Zone.after_append hrest] at h
      exact ⟨hc, ih h (by omega)⟩

/-- Behind the parenthesis at its end, the text ends with the quote. -/
theorem quoteEnd_closed (h : zone ≠ .listQuote) :
    quoteEnd .everything zone k (')' :: '\'' :: rest) = .ok (k + 1) := by
  have hbehind : zone.after ')' ('\'' :: rest) = .text := by
    cases zone with
    | text => rfl
    | list => rfl
    | listQuote => exact absurd rfl h
  rw [quoteEnd_after (by simp), hbehind, quoteEnd_text_quote]

/-- Each quote opens quotes in a list, or closes them, and nothing else does. -/
theorem after_eq_listQuote_iff (hc : zone = .text → c ≠ '\'') :
    zone.after c cs = .listQuote ↔ if c = '\'' then zone ≠ .listQuote else zone = .listQuote := by
  cases zone with
  | text =>
      unfold Zone.after
      rw [if_neg (hc rfl)]
      dsimp only
      split <;> simp
  | list =>
      show Zone.behind .list c = _ ↔ _
      unfold Zone.behind
      by_cases hquote : c = '\''
      · subst hquote
        simp
      · simp only [if_neg hquote]
        split <;> simp
  | listQuote =>
      show Zone.behind .listQuote c = _ ↔ _
      unfold Zone.behind
      by_cases hquote : c = '\''
      · simp [hquote]
      · simp [hquote]

/-- Without quotes there are none to be hidden. -/
theorem quotesHidden_of_not_mem (hzone : zone ≠ .listQuote) (h : '\'' ∉ cs) :
    QuotesHidden zone cs ∧ zone.through cs ≠ .listQuote := by
  induction cs generalizing zone with
  | nil => exact ⟨trivial, hzone⟩
  | cons c cs ih =>
      rw [List.mem_cons, not_or] at h
      have hc : c ≠ '\'' := fun hc => h.1 hc.symm
      have hafter : zone.after c cs ≠ .listQuote := by
        rw [Ne, after_eq_listQuote_iff fun _ => hc, if_neg hc]
        exact hzone
      have hmore := ih hafter h.2
      exact ⟨⟨fun _ => hc, hmore.1⟩, hmore.2⟩

/-- Whoever counts parentheses goes on behind a character that is not the end. -/
theorem closing?_step (h : Reference.closing? true inQuote depth k (c :: cs) = some m)
    (hm : k < m) :
    ∃ depth', Reference.closing? true (if c = '\'' then !inQuote else inQuote) depth' (k + 1) cs =
      some m := by
  by_cases hquote : c = '\''
  · rw [Reference.closing?_quote ⟨rfl, hquote⟩] at h
    rw [if_pos hquote]
    exact ⟨depth, h⟩
  · rw [if_neg hquote]
    by_cases hopen : c = '(' ∧ (!inQuote) = true
    · rw [Reference.closing?_open (fun hc => hquote hc.2) hopen] at h
      exact ⟨depth + 1, h⟩
    · by_cases hclose : c = ')' ∧ (!inQuote) = true
      · obtain ⟨rfl, hin⟩ := hclose
        rw [Reference.closing?_close hin] at h
        cases depth with
        | zero =>
            cases h
            exact absurd hm (Nat.lt_irrefl k)
        | succ depth => exact ⟨depth, h⟩
      · rw [Reference.closing?_pass (fun hc => hquote hc.2) hopen hclose] at h
        exact ⟨depth, h⟩

/-- Where the count of parentheses ends, no quote is open, and none is for the reader of a quoted
text from whom the quotes are hidden. -/
theorem through_ne_listQuote (hhidden : QuotesHidden zone cs)
    (hquote : zone = .listQuote ↔ inQuote = true)
    (h : Reference.closing? true inQuote depth k (cs ++ ')' :: rest) = some (k + cs.length)) :
    zone.through cs ≠ .listQuote := by
  induction cs generalizing zone inQuote depth k with
  | nil =>
      intro hzone
      obtain rfl := hquote.mp hzone
      rw [List.nil_append, Reference.closing?_pass (by simp) (by simp) (by simp)] at h
      obtain ⟨inside, _, _, hlength, _⟩ := Reference.closing?_eq_some h
      rw [List.length_nil] at hlength
      omega
  | cons c cs ih =>
      rw [List.length_cons] at h
      obtain ⟨depth', hnext⟩ := closing?_step h (by omega)
      rw [show k + (cs.length + 1) = k + 1 + cs.length by omega] at hnext
      refine ih hhidden.2 ?_ hnext
      rw [after_eq_listQuote_iff hhidden.1]
      split
      · rw [Ne, hquote, Bool.not_eq_true, Bool.not_eq_true']
      · exact hquote

/-- **An item list in a quoted text does not end it** if no quote is met outside of lists. -/
theorem quoteEnd_items_iff
    (h : Reference.closing? true false 0 0 (cs ++ [')']) = some cs.length) :
    quoteEnd .everything .list k (cs ++ ')' :: '\'' :: rest) = .ok (k + cs.length + 1) ↔
      QuotesHidden .list cs := by
  constructor
  · intro hend
    exact quotesHidden_of_quoteEnd (by simp) hend (by omega)
  · intro hhidden
    have hopen : Zone.list = .listQuote ↔ false = true := by simp
    rw [← Nat.zero_add cs.length] at h
    rw [quoteEnd_through (by simp) hhidden,
      quoteEnd_closed (through_ne_listQuote hhidden hopen h)]

/-- A reference to a property in a quoted text does not end it if there are no quotes in it. -/
theorem quoteEnd_property (h : '\'' ∉ cs) :
    quoteEnd .everything .text k (cs ++ ')' :: '\'' :: rest) = .ok (k + cs.length + 1) := by
  have hplain : QuotesHidden .text cs ∧ Zone.through .text cs ≠ .listQuote :=
    quotesHidden_of_not_mem (by simp) h
  rw [quoteEnd_through (by simp) hplain.1, quoteEnd_closed hplain.2]

end Lexeme

end BuildCondition
