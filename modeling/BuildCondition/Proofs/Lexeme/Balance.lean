import BuildCondition.Proofs.Lexeme.Brackets

/-!
# Balanced parentheses

The parenthesis that closes a reference is found by counting. Which one that is can be told without
going through the text: the one up to which as many parentheses are closed as are opened, and never
more on the way (§1). In an item list only what stands outside quotes counts, and a parenthesis in
quotes closes nothing (§2).
-/

namespace BuildCondition.Reference

/-! ## §1  Parentheses -/

/-- With `depth` parentheses open besides, no beginning of a text closes more than are open, and in
the end none is. -/
structure Balances (depth : Nat) (cs : List Char) : Prop where
  within : ∀ pre, pre <+: cs → pre.count ')' ≤ depth + pre.count '('
  total : cs.count ')' = depth + cs.count '('

section Balances

variable {depth : Nat} {c : Char} {cs : List Char}

theorem balances_nil : Balances depth [] ↔ depth = 0 := by
  constructor
  · intro h
    have htotal := h.total
    simp only [List.count_nil] at htotal
    omega
  · rintro rfl
    refine ⟨fun pre hpre => ?_, rfl⟩
    rw [List.prefix_nil.mp hpre]
    exact Nat.le_refl _

/-- Only beginnings with the first character in them have to be looked at. -/
theorem balances_cons : Balances depth (c :: cs) ↔
    (∀ pre, pre <+: cs → (c :: pre).count ')' ≤ depth + (c :: pre).count '(') ∧
      (c :: cs).count ')' = depth + (c :: cs).count '(' := by
  constructor
  · intro h
    exact ⟨fun pre hpre => h.within _ ((List.prefix_cons_inj c).mpr hpre), h.total⟩
  · rintro ⟨hwithin, htotal⟩
    refine ⟨fun pre hpre => ?_, htotal⟩
    rcases List.prefix_cons_iff.mp hpre with rfl | ⟨tail, rfl, htail⟩
    · exact Nat.zero_le _
    · exact hwithin tail htail

theorem balances_open : Balances depth ('(' :: cs) ↔ Balances (depth + 1) cs := by
  have hopen : ∀ pre : List Char, ('(' :: pre).count '(' = pre.count '(' + 1 :=
    fun _ => List.count_cons_self
  have hclose : ∀ pre : List Char, ('(' :: pre).count ')' = pre.count ')' :=
    fun _ => List.count_cons_of_ne (by decide)
  simp only [balances_cons, hopen, hclose]
  constructor
  · rintro ⟨hwithin, htotal⟩
    exact ⟨fun pre hpre => by have := hwithin pre hpre; omega, by omega⟩
  · intro h
    exact ⟨fun pre hpre => by have := h.within pre hpre; omega, by have := h.total; omega⟩

theorem balances_close : Balances (depth + 1) (')' :: cs) ↔ Balances depth cs := by
  have hopen : ∀ pre : List Char, (')' :: pre).count '(' = pre.count '(' :=
    fun _ => List.count_cons_of_ne (by decide)
  have hclose : ∀ pre : List Char, (')' :: pre).count ')' = pre.count ')' + 1 :=
    fun _ => List.count_cons_self
  simp only [balances_cons, hopen, hclose]
  constructor
  · rintro ⟨hwithin, htotal⟩
    exact ⟨fun pre hpre => by have := hwithin pre hpre; omega, by omega⟩
  · intro h
    exact ⟨fun pre hpre => by have := h.within pre hpre; omega, by have := h.total; omega⟩

theorem not_balances_close : ¬Balances 0 (')' :: cs) := fun h =>
  absurd (h.within [')'] ((List.prefix_cons_inj ')').mpr List.nil_prefix)) (by decide)

theorem balances_pass (hopen : c ≠ '(') (hclose : c ≠ ')') :
    Balances depth (c :: cs) ↔ Balances depth cs := by
  simp only [balances_cons, List.count_cons_of_ne hopen, List.count_cons_of_ne hclose]
  exact ⟨fun h => ⟨h.1, h.2⟩, fun h => ⟨h.within, h.total⟩⟩

end Balances

/-! ## §2  Quotes -/

/-- What stands outside quotes, if quotes count; `inQuote` tells whether one is open. -/
def outsideQuotes (quotes inQuote : Bool) : List Char → List Char
  | [] => []
  | c :: cs =>
      if quotes ∧ c = '\'' then outsideQuotes quotes (!inQuote) cs
      else if inQuote then outsideQuotes quotes inQuote cs
      else c :: outsideQuotes quotes inQuote cs

/-- Whether a quote is open behind a text, if quotes count. -/
def inQuoteBehind (quotes inQuote : Bool) : List Char → Bool
  | [] => inQuote
  | c :: cs => inQuoteBehind quotes (if quotes ∧ c = '\'' then !inQuote else inQuote) cs

/-- A parenthesis behind such a text is the one that closes the reference. -/
def ClosesBehind (quotes inQuote : Bool) (depth : Nat) (cs : List Char) : Prop :=
  Balances depth (outsideQuotes quotes inQuote cs) ∧ inQuoteBehind quotes inQuote cs = false

section Closing

variable {quotes inQuote : Bool} {depth k m : Nat} {c : Char} {cs : List Char}

theorem closesBehind_nil :
    ClosesBehind quotes inQuote depth [] ↔ depth = 0 ∧ inQuote = false := by
  rw [ClosesBehind, outsideQuotes, balances_nil, inQuoteBehind]

theorem closesBehind_quote (h : quotes = true ∧ c = '\'') :
    ClosesBehind quotes inQuote depth (c :: cs) ↔ ClosesBehind quotes (!inQuote) depth cs := by
  rw [ClosesBehind, outsideQuotes, inQuoteBehind, if_pos h, if_pos h, ClosesBehind]

theorem closesBehind_inQuote (h : ¬(quotes = true ∧ c = '\'')) :
    ClosesBehind quotes true depth (c :: cs) ↔ ClosesBehind quotes true depth cs := by
  rw [ClosesBehind, outsideQuotes, inQuoteBehind, if_neg h, if_neg h, if_pos rfl, ClosesBehind]

/-- Outside quotes, every character counts that is no quote. -/
theorem closesBehind_outside (h : ¬(quotes = true ∧ c = '\'')) :
    ClosesBehind quotes false depth (c :: cs) ↔
      Balances depth (c :: outsideQuotes quotes false cs) ∧
        inQuoteBehind quotes false cs = false := by
  rw [ClosesBehind, outsideQuotes, inQuoteBehind, if_neg h, if_neg h, if_neg (by decide)]

theorem closesBehind_open (h : ¬(quotes = true ∧ '(' = '\'')) :
    ClosesBehind quotes false depth ('(' :: cs) ↔ ClosesBehind quotes false (depth + 1) cs := by
  rw [closesBehind_outside h, balances_open, ClosesBehind]

theorem closesBehind_close (h : ¬(quotes = true ∧ ')' = '\'')) :
    ClosesBehind quotes false (depth + 1) (')' :: cs) ↔ ClosesBehind quotes false depth cs := by
  rw [closesBehind_outside h, balances_close, ClosesBehind]

theorem not_closesBehind_close (h : ¬(quotes = true ∧ ')' = '\'')) :
    ¬ClosesBehind quotes false 0 (')' :: cs) := fun hcloses =>
  not_balances_close ((closesBehind_outside h).mp hcloses).1

theorem closesBehind_pass (h : ¬(quotes = true ∧ c = '\'')) (hopen : c ≠ '(') (hclose : c ≠ ')') :
    ClosesBehind quotes false depth (c :: cs) ↔ ClosesBehind quotes false depth cs := by
  rw [closesBehind_outside h, balances_pass hopen hclose, ClosesBehind]

/-- Outside quotes, nothing changes behind a text without quotes and parentheses. -/
theorem closesBehind_append {rest : List Char}
    (h : ∀ c ∈ cs, c ≠ '\'' ∧ c ≠ '(' ∧ c ≠ ')') :
    ClosesBehind quotes false depth (cs ++ rest) ↔ ClosesBehind quotes false depth rest := by
  induction cs with
  | nil => rfl
  | cons c cs ih =>
      obtain ⟨⟨hquote, hopen, hclose⟩, hcs⟩ := List.forall_mem_cons.mp h
      rw [List.cons_append, closesBehind_pass (fun hc => hquote hc.2) hopen hclose, ih hcs]

/-- In quotes, nothing changes behind a text without quotes. -/
theorem closesBehind_inQuote_append {rest : List Char} (h : '\'' ∉ cs) :
    ClosesBehind quotes true depth (cs ++ rest) ↔ ClosesBehind quotes true depth rest := by
  induction cs with
  | nil => rfl
  | cons c cs ih =>
      rw [List.mem_cons, not_or] at h
      rw [List.cons_append, closesBehind_inQuote fun hc => h.1 hc.2.symm, ih h.2]

/-- A text up to some parenthesis is empty, or it starts with the first character. -/
theorem exists_upTo_iff {p : List Char → Prop} :
    (∃ body rest, c :: cs = body ++ ')' :: rest ∧ m = k + body.length ∧ p body) ↔
      (c = ')' ∧ m = k ∧ p []) ∨
        ∃ body rest, cs = body ++ ')' :: rest ∧ m = k + 1 + body.length ∧ p (c :: body) := by
  constructor
  · rintro ⟨body, rest, hcs, hm, hp⟩
    cases body with
    | nil => exact .inl ⟨(List.cons.inj hcs).1, hm, hp⟩
    | cons d body =>
        obtain ⟨rfl, htail⟩ := List.cons.inj hcs
        refine .inr ⟨body, rest, htail, ?_, hp⟩
        rw [hm, List.length_cons]
        omega
  · rintro (⟨rfl, rfl, hp⟩ | ⟨body, rest, rfl, rfl, hp⟩)
    · exact ⟨[], cs, rfl, rfl, hp⟩
    · refine ⟨c :: body, rest, rfl, ?_, hp⟩
      rw [List.length_cons]
      omega

/-- **The parenthesis that is found is the one up to which parentheses are balanced and quotes are
closed.** -/
theorem closing?_eq_some_iff : closing? quotes inQuote depth k cs = some m ↔
    ∃ body rest, cs = body ++ ')' :: rest ∧ m = k + body.length ∧
      ClosesBehind quotes inQuote depth body := by
  induction cs generalizing inQuote depth k with
  | nil =>
      constructor
      · intro h
        cases h
      · rintro ⟨body, rest, h, _⟩
        cases body <;> cases h
  | cons c cs ih =>
      rw [exists_upTo_iff]
      by_cases hquote : quotes = true ∧ c = '\''
      · have hne : c ≠ ')' := by
          rw [hquote.2]
          decide
        rw [closing?_quote hquote, ih]
        simp only [closesBehind_quote hquote, hne, false_and, false_or]
      · cases inQuote with
        | true =>
            have hnil : ¬ClosesBehind quotes true depth [] := fun h => by
              cases (closesBehind_nil.mp h).2
            rw [closing?_pass hquote (by simp) (by simp), ih]
            simp only [closesBehind_inQuote hquote, hnil, and_false, false_or]
        | false =>
            by_cases hopen : c = '('
            · subst hopen
              have hne : '(' ≠ ')' := by decide
              rw [closing?_open hquote ⟨rfl, rfl⟩, ih]
              simp only [closesBehind_open hquote, hne, false_and, false_or]
            · by_cases hclose : c = ')'
              · subst hclose
                rw [closing?_close rfl]
                cases depth with
                | zero =>
                    have hnil : ClosesBehind quotes false 0 [] := closesBehind_nil.mpr ⟨rfl, rfl⟩
                    simp only [not_closesBehind_close hquote, hnil, and_false, exists_false,
                      or_false, and_true, true_and, Option.some.injEq]
                    exact eq_comm
                | succ depth =>
                    have hnil : ¬ClosesBehind quotes false (depth + 1) [] := fun h => by
                      cases (closesBehind_nil.mp h).1
                    simp only [ih, closesBehind_close hquote, hnil, and_false, false_or]
              · rw [closing?_pass hquote (fun h => hopen h.1) (fun h => hclose h.1), ih]
                simp only [closesBehind_pass hquote hopen hclose, hclose, false_and, false_or]

end Closing

end BuildCondition.Reference
