import BuildCondition.Lexeme.Reader
import BuildCondition.Proofs.Text.Cut

/-!
# Where brackets end

Each of the bracketed lexemes is read up to a mark: a parenthesis or a quote. Which one is a matter
of the characters before it alone, although the reading looks one character ahead: the mark is
never a parenthesis that opens, so that nothing behind it is looked at.
-/

namespace BuildCondition

open BuildCondition.Text

/-! ## §1  Marks -/

/-- A reading of `cs` ends at the mark at place `m`, counted from `k`, and would do so whatever
stood behind it; `found` tells what is read. -/
def EndsAt (mark : Char) (k m : Nat) (cs : List Char) (found : List Char → Prop) : Prop :=
  ∃ inside rest, cs = inside ++ mark :: rest ∧ m = k + inside.length ∧
    ∀ rest', found (inside ++ mark :: rest')

namespace EndsAt

variable {mark : Char} {k m : Nat} {cs : List Char} {found found' : List Char → Prop}

theorem here (h : ∀ rest', found (mark :: rest')) : EndsAt mark k k (mark :: cs) found :=
  ⟨[], cs, rfl, rfl, h⟩

/-- A reading passes a character if it goes on in the same way for all texts that start alike. -/
theorem pass {c : Char} (h : EndsAt mark (k + 1) m cs found)
    (hstep : ∀ text, text.head? = cs.head? → found text → found' (c :: text)) :
    EndsAt mark k m (c :: cs) found' := by
  obtain ⟨inside, rest, rfl, rfl, hfound⟩ := h
  refine ⟨c :: inside, rest, rfl, by simp only [List.length_cons]; omega, fun rest' => ?_⟩
  refine hstep _ ?_ (hfound rest')
  cases inside <;> rfl

end EndsAt

/-! ## §2  Properties -/

namespace Lexeme

variable {outer : List Level} {level : Level} {k : Nat} {c : Char} {cs : List Char}

namespace Level

theorem note_blank (h : isBlank c = true) :
    level.note k c = { level with blank := some (k, c) } := by
  have hopen : c ≠ '(' := by
    rintro rfl
    exact absurd h (by decide)
  have hclose : c ≠ ')' := by
    rintro rfl
    exact absurd h (by decide)
  rw [note, if_neg hopen, if_neg hclose, if_pos h]

theorem blank_note (h : isBlank c = false) : (level.note k c).blank = level.blank := by
  unfold note
  split
  · rfl
  · split
    · rfl
    · rw [if_neg (by rw [h]; decide)]
      split <;> rfl

end Level

theorem propertyEnd_close (h : level.parens ≤ 1) :
    propertyEnd outer level k (')' :: cs) =
      match level.strayBlank? with
      | some (b, blank) => .stray b blank
      | none =>
          match outer with
          | [] => .closed k
          | around :: outer => propertyEnd outer around (k + 1) cs := by
  rw [propertyEnd.eq_def]
  exact if_pos ⟨rfl, h⟩

theorem propertyEnd_nest (hclose : ¬(c = ')' ∧ level.parens ≤ 1))
    (h : c = '$' ∧ cs.head? = some '(') :
    propertyEnd outer level k (c :: cs) =
      propertyEnd (level.note k c :: outer) Level.fresh (k + 1) cs := by
  rw [propertyEnd.eq_def]
  exact (if_neg hclose).trans (if_pos h)

theorem propertyEnd_note (hclose : ¬(c = ')' ∧ level.parens ≤ 1))
    (h : ¬(c = '$' ∧ cs.head? = some '(')) :
    propertyEnd outer level k (c :: cs) = propertyEnd outer (level.note k c) (k + 1) cs := by
  rw [propertyEnd.eq_def]
  exact (if_neg hclose).trans (if_neg h)

theorem propertyEnd_eq_closed {m : Nat} (h : propertyEnd outer level k cs = .closed m) :
    EndsAt ')' k m cs fun text => propertyEnd outer level k text = .closed m := by
  induction cs generalizing outer level k with
  | nil => cases h
  | cons c cs ih =>
      by_cases hclose : c = ')' ∧ level.parens ≤ 1
      · obtain ⟨rfl, hparens⟩ := hclose
        rw [propertyEnd_close hparens] at h
        cases hblank : level.strayBlank? with
        | some b =>
            rw [hblank] at h
            cases h
        | none =>
            rw [hblank] at h
            cases outer with
            | nil =>
                cases h
                refine .here fun rest' => ?_
                rw [propertyEnd_close hparens, hblank]
            | cons around outer =>
                refine (ih h).pass fun text _ htext => ?_
                rw [propertyEnd_close hparens, hblank]
                exact htext
      · by_cases hnest : c = '$' ∧ cs.head? = some '('
        · rw [propertyEnd_nest hclose hnest] at h
          refine (ih h).pass fun text hhead htext => ?_
          rw [propertyEnd_nest hclose (hhead ▸ hnest)]
          exact htext
        · rw [propertyEnd_note hclose hnest] at h
          refine (ih h).pass fun text hhead htext => ?_
          rw [propertyEnd_note hclose (hhead ▸ hnest)]
          exact htext

end Lexeme

/-! ## §3  Parentheses -/

namespace Reference

variable {quotes inQuote : Bool} {depth k : Nat} {c : Char} {cs : List Char}

theorem closing?_quote (h : quotes = true ∧ c = '\'') :
    closing? quotes inQuote depth k (c :: cs) = closing? quotes (!inQuote) depth (k + 1) cs := by
  rw [closing?.eq_def]
  exact if_pos h

theorem closing?_open (hquote : ¬(quotes = true ∧ c = '\'')) (h : c = '(' ∧ (!inQuote) = true) :
    closing? quotes inQuote depth k (c :: cs) = closing? quotes inQuote (depth + 1) (k + 1) cs := by
  rw [closing?.eq_def]
  exact (if_neg hquote).trans (if_pos h)

theorem closing?_close (h : (!inQuote) = true) :
    closing? quotes inQuote depth k (')' :: cs) =
      match depth with
      | 0 => some k
      | d + 1 => closing? quotes inQuote d (k + 1) cs := by
  rw [closing?.eq_def]
  exact (if_neg (by simp)).trans ((if_neg (by simp)).trans (if_pos ⟨rfl, h⟩))

theorem closing?_pass (hquote : ¬(quotes = true ∧ c = '\''))
    (hopen : ¬(c = '(' ∧ (!inQuote) = true)) (hclose : ¬(c = ')' ∧ (!inQuote) = true)) :
    closing? quotes inQuote depth k (c :: cs) = closing? quotes inQuote depth (k + 1) cs := by
  rw [closing?.eq_def]
  exact (if_neg hquote).trans ((if_neg hopen).trans (if_neg hclose))

theorem closing?_eq_some {m : Nat} (h : closing? quotes inQuote depth k cs = some m) :
    EndsAt ')' k m cs fun text => closing? quotes inQuote depth k text = some m := by
  induction cs generalizing inQuote depth k with
  | nil => cases h
  | cons c cs ih =>
      by_cases hquote : quotes = true ∧ c = '\''
      · rw [closing?_quote hquote] at h
        exact (ih h).pass fun text _ htext => (closing?_quote hquote).trans htext
      · by_cases hopen : c = '(' ∧ (!inQuote) = true
        · rw [closing?_open hquote hopen] at h
          exact (ih h).pass fun text _ htext => (closing?_open hquote hopen).trans htext
        · by_cases hclose : c = ')' ∧ (!inQuote) = true
          · obtain ⟨rfl, hin⟩ := hclose
            rw [closing?_close hin] at h
            cases depth with
            | zero =>
                cases h
                exact .here fun rest' => closing?_close hin
            | succ depth =>
                exact (ih h).pass fun text _ htext => (closing?_close hin).trans htext
          · rw [closing?_pass hquote hopen hclose] at h
            exact (ih h).pass fun text _ htext => (closing?_pass hquote hopen hclose).trans htext

/-- Between the parentheses of a reference without others in it, there is its body. -/
theorem closing?_of_not_mem {inside rest : List Char} (hopen : '(' ∉ inside)
    (hclose : ')' ∉ inside) :
    closing? false false 0 k (inside ++ ')' :: rest) = some (k + inside.length) := by
  induction inside generalizing k with
  | nil => exact closing?_close rfl
  | cons c inside ih =>
      rw [List.mem_cons, not_or] at hopen hclose
      rw [List.cons_append, closing?_pass (by simp) (fun h => hopen.1 h.1.symm)
        (fun h => hclose.1 h.1.symm), ih hopen.2 hclose.2, List.length_cons, Nat.add_assoc,
        Nat.add_comm 1]

end Reference

/-! ## §4  Quoted text -/

namespace Lexeme

variable {mode : Mode} {k : Nat} {c : Char} {cs : List Char}

theorem quoteEnd_text_quote : quoteEnd mode .text k ('\'' :: cs) = .ok k := by
  rw [quoteEnd.eq_def]
  exact if_pos rfl

theorem quoteEnd_text_items (h : c = '@' ∧ cs.head? = some '(') :
    quoteEnd mode .text k (c :: cs) =
      if mode = .propertiesOnly then .error ⟨.itemsNotAllowed, none, k + 1, 0⟩
      else quoteEnd mode .list (k + 1) cs := by
  obtain ⟨rfl, hhead⟩ := h
  rw [quoteEnd.eq_def]
  exact (if_neg (by decide)).trans (if_pos ⟨rfl, hhead⟩)

theorem quoteEnd_text_metadata (h : c = '%' ∧ cs.head? = some '(' ∧ mode = .propertiesOnly) :
    quoteEnd mode .text k (c :: cs) = .error ⟨.metadataNotAllowed, none, k + 1, 0⟩ := by
  obtain ⟨rfl, hhead⟩ := h
  rw [quoteEnd.eq_def]
  exact (if_neg (by decide)).trans ((if_neg (by simp)).trans (if_pos ⟨rfl, hhead⟩))

theorem quoteEnd_text_pass (hquote : c ≠ '\'') (hitems : ¬(c = '@' ∧ cs.head? = some '('))
    (hmetadata : ¬(c = '%' ∧ cs.head? = some '(' ∧ mode = .propertiesOnly)) :
    quoteEnd mode .text k (c :: cs) = quoteEnd mode .text (k + 1) cs := by
  rw [quoteEnd.eq_def]
  exact (if_neg hquote).trans ((if_neg hitems).trans (if_neg hmetadata))

/-- Where reading goes on behind a character inside of an item list. -/
def Zone.behind (zone : Zone) (c : Char) : Zone :=
  match zone with
  | .text => .text
  | .list => if c = ')' then .text else if c = '\'' then .listQuote else .list
  | .listQuote => if c = '\'' then .list else .listQuote

theorem quoteEnd_list {zone : Zone} (h : zone ≠ .text) :
    quoteEnd mode zone k (c :: cs) = quoteEnd mode (zone.behind c) (k + 1) cs := by
  rw [quoteEnd.eq_def]
  cases zone with
  | text => exact absurd rfl h
  | list =>
      by_cases hclose : c = ')'
      · simp only [Zone.behind, if_pos hclose]
      · by_cases hquote : c = '\''
        · simp only [Zone.behind, if_neg hclose, if_pos hquote]
        · simp only [Zone.behind, if_neg hclose, if_neg hquote]
  | listQuote =>
      by_cases hquote : c = '\''
      · simp only [Zone.behind, if_pos hquote]
      · simp only [Zone.behind, if_neg hquote]

theorem quoteEnd_eq_ok {zone : Zone} {m : Nat} (h : quoteEnd mode zone k cs = .ok m) :
    EndsAt '\'' k m cs fun text => quoteEnd mode zone k text = .ok m := by
  induction cs generalizing zone k with
  | nil => cases h
  | cons c cs ih =>
      by_cases hzone : zone = .text
      · subst hzone
        by_cases hquote : c = '\''
        · subst hquote
          rw [quoteEnd_text_quote] at h
          cases h
          exact .here fun rest' => quoteEnd_text_quote
        · by_cases hitems : c = '@' ∧ cs.head? = some '('
          · rw [quoteEnd_text_items hitems] at h
            by_cases hmode : mode = .propertiesOnly
            · rw [if_pos hmode] at h
              cases h
            · rw [if_neg hmode] at h
              refine (ih h).pass fun text hhead htext => ?_
              rw [quoteEnd_text_items (hhead ▸ hitems), if_neg hmode]
              exact htext
          · by_cases hmetadata : c = '%' ∧ cs.head? = some '(' ∧ mode = .propertiesOnly
            · rw [quoteEnd_text_metadata hmetadata] at h
              cases h
            · rw [quoteEnd_text_pass hquote hitems hmetadata] at h
              refine (ih h).pass fun text hhead htext => ?_
              rw [quoteEnd_text_pass hquote (hhead ▸ hitems) (hhead ▸ hmetadata)]
              exact htext
      · rw [quoteEnd_list hzone] at h
        exact (ih h).pass fun text _ htext => (quoteEnd_list hzone).trans htext

end Lexeme

end BuildCondition
