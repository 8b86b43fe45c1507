import BuildCondition.Proofs.Lexeme.Faults
import BuildCondition.Proofs.Token

/-!
# Cutting in the two modes

Where only properties are allowed, whatever mentions items is refused as soon as it is met, and
everything else is read as it is where all is allowed. This is shown for quoted texts, which may
hold items somewhere inside (§1), for lexemes (§2) and for the tokens of a whole condition (§3).
-/

namespace BuildCondition

open BuildCondition.Text

/-- A cause that only exists where properties alone are allowed. -/
def Cause.Restricts (c : Cause) : Prop :=
  c = .itemsNotAllowed ∨ c = .metadataNotAllowed

theorem Cause.Restricts.stage_ne {c : Cause} (h : c.Restricts) : c.stage ≠ .lexical := by
  rcases h with rfl | rfl <;> decide

/-- How a result is restricted where only properties are allowed: it is refused if it `holds` items,
and otherwise stays as it is. -/
def Restricted {α : Type} (holds : α → Prop) (free restricted : Except Fault α) : Prop :=
  restricted = free ∧ (∀ x, free = .ok x → ¬holds x) ∨
    ∃ f, restricted = .error f ∧ f.cause.Restricts ∧ ∀ x, free = .ok x → holds x

namespace Restricted

variable {α β : Type} {holds : α → Prop} {free restricted : Except Fault α}

theorem same (h : ∀ x, free = .ok x → ¬holds x) : Restricted holds free free :=
  .inl ⟨rfl, h⟩

theorem congr {holds' : α → Prop} (h : Restricted holds free restricted)
    (hsame : ∀ x, free = .ok x → (holds' x ↔ holds x)) : Restricted holds' free restricted := by
  rcases h with ⟨heq, hnot⟩ | ⟨f, heq, hcause, hholds⟩
  · exact .inl ⟨heq, fun x hx => mt (hsame x hx).mp (hnot x hx)⟩
  · exact .inr ⟨f, heq, hcause, fun x hx => (hsame x hx).mpr (hholds x hx)⟩

theorem map {holds' : β → Prop} {g : α → β}
    (h : Restricted (fun x => holds' (g x)) free restricted) :
    Restricted holds' (free.map g) (restricted.map g) := by
  rcases h with ⟨rfl, hnot⟩ | ⟨f, rfl, hcause, hholds⟩
  · refine .same fun y hy => ?_
    obtain ⟨x, hx, rfl⟩ := map_eq_ok.mp hy
    exact hnot x hx
  · refine .inr ⟨f, rfl, hcause, fun y hy => ?_⟩
    obtain ⟨x, hx, rfl⟩ := map_eq_ok.mp hy
    exact hholds x hx

end Restricted

namespace Lexeme

/-! ## §1  Quoted texts -/

/-- An item list or metadata begin somewhere in the text. -/
def HoldsItems (cs : List Char) : Prop :=
  ['@', '('] <:+: cs ∨ ['%', '('] <:+: cs

variable {c : Char} {cs : List Char}

theorem not_holdsItems_nil : ¬HoldsItems [] := by
  rintro (h | h) <;> simp at h

theorem holdsItems_cons :
    HoldsItems (c :: cs) ↔ (c = '@' ∨ c = '%') ∧ cs.head? = some '(' ∨ HoldsItems cs := by
  have hpair : ∀ d : Char,
      [d, '('] <:+: c :: cs ↔ c = d ∧ cs.head? = some '(' ∨ [d, '('] <:+: cs := by
    intro d
    rw [List.infix_cons_iff]
    cases cs with
    | nil => simp
    | cons e cs => simp [List.cons_prefix_cons, eq_comm]
  unfold HoldsItems
  rw [hpair, hpair, or_or_or_comm, or_and_right]

/-- What is read behind the first character of a quoted text. -/
theorem take_of_quoteEnd {mode : Mode} {zone : Zone} {k m : Nat}
    (h : quoteEnd mode zone (k + 1) cs = .ok m) :
    ∃ inside, (c :: cs).take (m - k) = c :: inside ∧ cs.take (m - (k + 1)) = inside ∧
      (inside.head? = some '(' ↔ cs.head? = some '(') := by
  obtain ⟨inside, rest, rfl, rfl, _⟩ := quoteEnd_eq_ok h
  refine ⟨inside, ?_, ?_, ?_⟩
  · rw [show k + 1 + inside.length - k = inside.length + 1 by omega, List.take_succ_cons,
      List.take_left]
  · rw [Nat.add_sub_cancel_left, List.take_left]
  · cases inside <;> simp

theorem quoteEnd_restricted (k : Nat) (cs : List Char) :
    Restricted (fun m => HoldsItems (cs.take (m - k))) (quoteEnd .everything .text k cs)
      (quoteEnd .propertiesOnly .text k cs) := by
  induction cs generalizing k with
  | nil => exact .same fun m h => by cases h
  | cons c cs ih =>
      by_cases hquote : c = '\''
      · subst hquote
        rw [quoteEnd_text_quote, quoteEnd_text_quote]
        refine .same fun m h => ?_
        cases h
        rw [Nat.sub_self]
        exact not_holdsItems_nil
      · by_cases hitems : c = '@' ∧ cs.head? = some '('
        · -- one mode refuses the list, the other one passes over it or finds no end
          rw [quoteEnd_text_items hitems, quoteEnd_text_items hitems, if_pos rfl,
            if_neg (by decide)]
          refine .inr ⟨_, rfl, .inl rfl, fun m h => ?_⟩
          obtain ⟨inside, htake, _, hhead⟩ := take_of_quoteEnd (c := c) h
          rw [htake, holdsItems_cons]
          exact .inl ⟨.inl hitems.1, hhead.mpr hitems.2⟩
        · by_cases hmetadata : c = '%' ∧ cs.head? = some '('
          · rw [quoteEnd_text_metadata ⟨hmetadata.1, hmetadata.2, rfl⟩,
              quoteEnd_text_pass hquote hitems (by simp)]
            refine .inr ⟨_, rfl, .inr rfl, fun m h => ?_⟩
            obtain ⟨inside, htake, _, hhead⟩ := take_of_quoteEnd (c := c) h
            rw [htake, holdsItems_cons]
            exact .inl ⟨.inr hmetadata.1, hhead.mpr hmetadata.2⟩
          · rw [quoteEnd_text_pass hquote hitems (by simp),
              quoteEnd_text_pass hquote hitems (fun h => hmetadata ⟨h.1, h.2.1⟩)]
            -- this character begins nothing, so the text holds items if what follows does
            refine (ih (k + 1)).congr fun m h => ?_
            obtain ⟨inside, htake, hinside, hhead⟩ := take_of_quoteEnd (c := c) h
            rw [htake, hinside, holdsItems_cons, hhead]
            exact or_iff_right fun hc => hc.1.elim (fun hc' => hitems ⟨hc', hc.2⟩)
              fun hc' => hmetadata ⟨hc', hc.2⟩

/-! ## §2  Lexemes -/

/-- A lexeme that refers to items, or may do so when it is filled in. -/
def MentionsItems : Lexeme → Prop
  | reference r => r.sigil ≠ .property
  | quoted s => HoldsItems s.toList
  | _ => False

theorem readQuoted_restricted (cs : List Char) :
    Restricted MentionsItems (readQuoted .everything cs) (readQuoted .propertiesOnly cs) := by
  refine .map ((quoteEnd_restricted 0 cs).congr fun m _ => ?_)
  rw [MentionsItems, String.toList_ofList, Nat.sub_zero]

theorem readItems_restricted (cs : List Char) :
    Restricted MentionsItems (readItems .everything cs) (readItems .propertiesOnly cs) := by
  refine .inr ⟨_, rfl, .inl rfl, fun l h => ?_⟩
  unfold readItems at h
  rw [if_neg (by decide)] at h
  split at h
  · split at h
    · cases h
      exact fun hsigil => by cases hsigil
    · split at h <;> cases h
  · cases h

theorem readMetadata_restricted (cs : List Char) :
    Restricted MentionsItems (readMetadata .everything cs) (readMetadata .propertiesOnly cs) := by
  unfold readMetadata
  split
  · refine .inr ⟨_, rfl, .inr rfl, fun l h => ?_⟩
    rw [if_neg (by decide)] at h
    split at h
    · cases h
      exact fun hsigil => by cases hsigil
    · cases h
  · exact .same fun l h => by cases h

/-- Lexemes that mention items can be told by their first character. -/
theorem head_of_mentionsItems {l : Lexeme} {after : List Char} (hsrc : l.SpelledAs (c :: after))
    (h : l.MentionsItems) : c ∈ ['@', '%', '\''] := by
  cases l with
  | reference r =>
      obtain ⟨sigil, body⟩ := r
      obtain ⟨cs, rfl⟩ : ∃ cs, body = String.ofList cs := ⟨_, String.ofList_toList.symm⟩
      have hc : c :: after = sigil.char :: _ := Eq.trans hsrc (toList_source_reference sigil cs)
      cases hc
      cases sigil with
      | property => exact absurd rfl h
      | items => decide
      | metadata => decide
  | quoted s =>
      obtain ⟨cs, rfl⟩ : ∃ cs, s = String.ofList cs := ⟨_, String.ofList_toList.symm⟩
      have hc : c :: after = '\'' :: _ := Eq.trans hsrc (toList_source_quoted cs)
      cases hc
      decide
  | _ => cases h

theorem readLexeme_restricted (c : Char) (cs : List Char) :
    Restricted MentionsItems (readLexeme .everything c cs) (readLexeme .propertiesOnly c cs) := by
  by_cases hat : c = '@'
  · subst hat
    exact readItems_restricted cs
  by_cases hpercent : c = '%'
  · subst hpercent
    exact readMetadata_restricted cs
  by_cases hquote : c = '\''
  · subst hquote
    exact readQuoted_restricted cs
  have heq : readLexeme .propertiesOnly c cs = readLexeme .everything c cs := by
    simp only [readLexeme, if_neg hat, if_neg hpercent, if_neg hquote]
  rw [heq]
  refine .same fun l h hl => ?_
  obtain ⟨after, rest, _, hsrc, _⟩ := readLexeme_local h
  have hc := head_of_mentionsItems hsrc hl
  simp only [List.mem_cons, List.not_mem_nil, or_false] at hc
  exact hc.elim hat fun hc => hc.elim hpercent hquote

section Faults

variable {f : Fault}

theorem stage_readProperty (h : readProperty cs = .error f) : f.cause.stage = .lexical := by
  unfold readProperty at h
  split at h
  · split at h <;> cases h <;> rfl
  · cases h
    rfl

theorem stage_readItems (h : readItems .everything cs = .error f) : f.cause.stage = .lexical := by
  unfold readItems at h
  rw [if_neg (by decide)] at h
  split at h
  · split at h
    · cases h
    · split at h <;> cases h <;> rfl
  · cases h
    rfl

theorem stage_readMetadata (h : readMetadata .everything cs = .error f) :
    f.cause.stage = .lexical := by
  unfold readMetadata at h
  split at h
  · rw [if_neg (by decide)] at h
    split at h <;> cases h
    rfl
  · cases h
    rfl

theorem stage_quoteEnd {zone : Zone} {k : Nat} (h : quoteEnd .everything zone k cs = .error f) :
    f.cause.stage = .lexical := by
  rcases quoteEnd_eq_error h with rfl | ⟨hmode, _⟩
  · rfl
  · cases hmode

theorem stage_readQuoted (h : readQuoted .everything cs = .error f) : f.cause.stage = .lexical := by
  unfold readQuoted at h
  exact stage_quoteEnd (map_eq_error.mp h)

theorem stage_numeralChars (h : numeralChars cs = .error f) : f.cause.stage = .lexical := by
  unfold numeralChars hexNumeral decimalNumeral at h
  simp only [] at h
  split at h
  · split at h
    · split at h <;> cases h
      rfl
    · split at h <;> cases h
      rfl
  · split at h <;> cases h
    rfl

theorem stage_readNumeral (h : readNumeral cs = .error f) : f.cause.stage = .lexical := by
  rcases bind_eq_error.mp h with h | ⟨chars, _, h⟩
  · exact stage_numeralChars h
  · split at h
    · cases h
    · split at h <;> cases h
      rfl

/-- Where everything is allowed, a fault in a lexeme is a lexical one. -/
theorem stage_readLexeme (h : readLexeme .everything c cs = .error f) :
    f.cause.stage = .lexical := by
  by_cases hmark : c ∈ marks
  · simp only [marks, List.mem_cons, List.not_mem_nil, or_false] at hmark
    rcases hmark with rfl | rfl | rfl | rfl | rfl | rfl | rfl | rfl | rfl | rfl | rfl
    · cases h
    · cases h
    · cases h
    · exact stage_readProperty h
    · exact stage_readItems h
    · exact stage_readMetadata h
    · exact stage_readQuoted h
    · cases h
    · cases h
    · cases h
    · rw [readLexeme_equals] at h
      split at h <;> cases h
      rfl
  · rw [readLexeme_of_not_mark hmark] at h
    split at h
    · exact stage_readNumeral h
    · split at h <;> cases h
      rfl

end Faults

end Lexeme

/-! ## §3  Conditions -/

theorem cause_failure (f : Fault) (start : Nat) : (f.failure start).cause = f.cause := by
  unfold Fault.failure
  split <;> rfl

/-- `restricted` breaks off for its items. The tokens of `free` go on, and if they end well, there
is one among the others that mentions items. -/
def BreaksOff (free restricted : Lexed) : Prop :=
  ∃ ts tail f, restricted = ⟨ts, .error f⟩ ∧ f.cause.Restricts ∧ free.tokens = ts ++ tail ∧
    ((∃ n, free.ending = .ok n) → ∃ t ∈ tail, t.lexeme.MentionsItems)

theorem BreaksOff.behind {free restricted : Lexed} (h : BreaksOff free restricted)
    (ts : List Token) : BreaksOff (free.behind ts) (restricted.behind ts) := by
  obtain ⟨us, tail, f, rfl, hcause, hfree, hmentions⟩ := h
  refine ⟨ts ++ us, tail, f, rfl, hcause, ?_, hmentions⟩
  rw [Lexed.behind, hfree, List.append_assoc]

/-- **Where only properties are allowed, a condition is cut in the same way up to the first token
that mentions items.** -/
theorem lexAt_restricted (position : Nat) (cs : List Char) :
    lexAt .propertiesOnly position cs = lexAt .everything position cs ∧
        (∀ t ∈ (lexAt .everything position cs).tokens, ¬t.lexeme.MentionsItems) ∨
      BreaksOff (lexAt .everything position cs) (lexAt .propertiesOnly position cs) := by
  induction cs using pieceInduction .everything generalizing position with
  | nil => exact .inl ⟨rfl, fun t ht => by cases ht⟩
  | blank c cs hblank ih =>
      rw [lexAt_blank hblank, lexAt_blank hblank]
      exact ih (position + 1)
  | lexeme src l rest hsrc hrest ih =>
      rw [lexAt_lexeme hsrc hrest]
      obtain ⟨hspelled, c, after, rfl, hblank, hread⟩ := hsrc
      rcases Lexeme.readLexeme_restricted c (after ++ rest) with
        ⟨heq, hnot⟩ | ⟨f, hrefused, hcause, hholds⟩
      · -- the lexeme is read in both modes, and so is its width
        rw [hread rest hrest] at heq
        rw [List.cons_append, lexAt_read hblank hspelled.length_eq heq]
        rcases ih (position + (c :: after).length) with ⟨hsame, hnone⟩ | hbreaks
        · refine .inl ⟨by rw [hsame], fun t ht => ?_⟩
          rcases List.mem_cons.mp ht with rfl | ht
          · exact hnot l (hread rest hrest)
          · exact hnone t ht
        · exact .inr (hbreaks.behind _)
      · -- it is refused, and stands first among the tokens that are missing
        rw [List.cons_append, lexAt_fault hblank hrefused]
        refine .inr ⟨[], _, _, rfl, (cause_failure f position).symm ▸ hcause, rfl, fun _ => ?_⟩
        exact ⟨⟨l, position⟩, List.mem_cons_self, hholds l (hread rest hrest)⟩
  | fault c cs f hblank hread =>
      rw [lexAt_fault hblank hread]
      rcases Lexeme.readLexeme_restricted c cs with ⟨heq, _⟩ | ⟨g, hrefused, hcause, _⟩
      · rw [lexAt_fault hblank (heq.trans hread)]
        exact .inl ⟨rfl, fun t ht => by cases ht⟩
      · -- nothing that is missing mentions items, but then cutting fails in either mode
        rw [lexAt_fault hblank hrefused]
        refine .inr ⟨[], [], _, rfl, (cause_failure g position).symm ▸ hcause, rfl, fun h => ?_⟩
        obtain ⟨n, hn⟩ := h
        cases hn

/-- Where everything is allowed, cutting fails for lexical causes only. -/
theorem stage_lexAt {position : Nat} {cs : List Char} {f : Failure}
    (h : (lexAt .everything position cs).ending = .error f) : f.cause.stage = .lexical := by
  induction cs using pieceInduction .everything generalizing position with
  | nil => cases h
  | blank c cs hblank ih =>
      rw [lexAt_blank hblank] at h
      exact ih h
  | lexeme src l rest hsrc hrest ih =>
      rw [lexAt_lexeme hsrc hrest] at h
      exact ih h
  | fault c cs g hblank hread =>
      rw [lexAt_fault hblank hread] at h
      cases h
      rw [cause_failure]
      exact Lexeme.stage_readLexeme hread

/-- In either mode, what ends the tokens of a condition is a lexeme that cannot be read or that is
not allowed, and nothing else. -/
theorem cause_ne_of_not_lexical {mode : Mode} {position : Nat} {cs : List Char} {f : Failure}
    {c : Cause} (h : (lexAt mode position cs).ending = .error f) (hstage : c.stage ≠ .lexical)
    (hallowed : ¬c.Restricts) : f.cause ≠ c := by
  have hfree : ∀ {g : Failure}, (lexAt .everything position cs).ending = .error g →
      g.cause ≠ c := by
    intro g hg hcause
    exact hstage (hcause ▸ stage_lexAt hg)
  cases mode with
  | everything => exact hfree h
  | propertiesOnly =>
      rcases lexAt_restricted position cs with ⟨hsame, _⟩ | ⟨ts, tail, g, hbroken, hrestricts, _⟩
      · exact hfree (hsame ▸ h)
      · rw [hbroken] at h
        cases h
        exact fun hcause => hallowed (hcause ▸ hrestricts)

end BuildCondition
