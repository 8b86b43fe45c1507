import BuildCondition.Proofs.Expr.Failures
import BuildCondition.Proofs.Expr.Truncation
import BuildCondition.Proofs.Grammar.Acceptance
import BuildCondition.Proofs.Mode.Lexing

/-!
# The two modes

Allowing properties only takes items away and changes nothing else. A condition without items is
put together or refused as it is where everything is allowed; one with items is refused for that
reason, unless it is refused for another reason before. Whether there are items in a condition can
be told from its tokens and from its expression alike (§1).
-/

namespace BuildCondition

/-! ## §1  Items in an expression -/

namespace Expr

mutual

/-- An expression and everything in it, from left to right. -/
def parts : Expr → List Expr
  | literal n v s => [literal n v s]
  | template n s => [template n s]
  | reference n r => [reference n r]
  | call n name arguments => call n name arguments :: partsOfAll arguments
  | not n e => not n e :: parts e
  | comparison op left right => comparison op left right :: (parts left ++ parts right)
  | chain op first others => chain op first others :: (parts first ++ partsOfAll others)

def partsOfAll : List Expr → List Expr
  | [] => []
  | e :: es => parts e ++ partsOfAll es

end

theorem partsOfAll_eq_flatMap (es : List Expr) : partsOfAll es = es.flatMap parts := by
  induction es with
  | nil => rfl
  | cons e es ih => rw [partsOfAll, ih, List.flatMap_cons]

/-- A reference to items or to metadata, or a template in which one begins. -/
def RefersToItems : Expr → Prop
  | reference _ r => r.sigil ≠ .property
  | template _ s => Lexeme.HoldsItems s.toList
  | _ => False

/-- There is something in an expression that refers to items. -/
def MentionsItems (e : Expr) : Prop :=
  ∃ x ∈ e.parts, x.RefersToItems

theorem mentionsItems_not (n : Nat) (e : Expr) : (not n e).MentionsItems ↔ e.MentionsItems := by
  simp [MentionsItems, parts, RefersToItems]

theorem mentionsItems_comparison (op : Comparison) (left right : Expr) :
    (comparison op left right).MentionsItems ↔ left.MentionsItems ∨ right.MentionsItems := by
  simp [MentionsItems, parts, RefersToItems, or_and_right, exists_or]

theorem mentionsItems_cons (e : Expr) (es : List Expr) :
    (∃ x ∈ e :: es, x.MentionsItems) ↔ e.MentionsItems ∨ ∃ x ∈ es, x.MentionsItems := by
  simp

theorem mentionsItems_partsOfAll (es : List Expr) :
    (∃ x ∈ partsOfAll es, x.RefersToItems) ↔ ∃ e ∈ es, e.MentionsItems := by
  rw [partsOfAll_eq_flatMap]
  constructor
  · rintro ⟨x, hx, hrefers⟩
    obtain ⟨e, he, hx⟩ := List.mem_flatMap.mp hx
    exact ⟨e, he, x, hx, hrefers⟩
  · rintro ⟨e, he, x, hx, hrefers⟩
    exact ⟨x, List.mem_flatMap.mpr ⟨e, he, hx⟩, hrefers⟩

theorem mentionsItems_call (n : Nat) (name : String) (es : List Expr) :
    (call n name es).MentionsItems ↔ ∃ e ∈ es, e.MentionsItems := by
  rw [← mentionsItems_partsOfAll]
  simp [MentionsItems, parts, RefersToItems]

theorem mentionsItems_chain (op : Connective) (first : Expr) (others : List Expr) :
    (chain op first others).MentionsItems ↔
      first.MentionsItems ∨ ∃ e ∈ others, e.MentionsItems := by
  rw [← mentionsItems_partsOfAll]
  simp [MentionsItems, parts, RefersToItems, or_and_right, exists_or]

theorem mentionsItems_joined (op : Connective) (first : Expr) (others : List Expr) :
    (joined op first others).MentionsItems ↔ ∃ e ∈ first :: others, e.MentionsItems := by
  cases others with
  | nil => simp [joined]
  | cons second others =>
      rw [mentionsItems_cons]
      exact mentionsItems_chain op first (second :: others)

theorem holdsReference_of_holdsItems {cs : List Char} (h : Lexeme.HoldsItems cs) :
    Lexeme.hasReference cs = true := by
  induction cs with
  | nil => exact absurd h Lexeme.not_holdsItems_nil
  | cons c cs ih =>
      rw [Lexeme.hasReference]
      rcases Lexeme.holdsItems_cons.mp h with ⟨rfl | rfl, hhead⟩ | h
      · simp [hhead]
      · simp
      · simp [ih h]

/-- An operand of one token mentions items if the token does. -/
theorem mentionsItems_operand? {t : Token} {e : Expr} (h : t.operand? = some e) :
    e.MentionsItems ↔ t.lexeme.MentionsItems := by
  obtain ⟨l, n⟩ := t
  cases l with
  | word s =>
      cases h
      unfold ofWord
      split <;> simp [MentionsItems, parts, RefersToItems, Lexeme.MentionsItems]
  | numeral s =>
      cases h
      unfold ofNumeral
      split <;> simp [MentionsItems, parts, RefersToItems, Lexeme.MentionsItems]
  | quoted s =>
      cases h
      unfold ofQuoted
      split
      · simp [MentionsItems, parts, RefersToItems, Lexeme.MentionsItems]
      · rename_i hplain
        simp only [MentionsItems, parts, RefersToItems, Lexeme.MentionsItems]
        simpa using fun h => hplain (holdsReference_of_holdsItems h)
  | reference r =>
      cases h
      simp [MentionsItems, parts, RefersToItems, Lexeme.MentionsItems]
  | functionName | connective | not | comparison | leftParen | rightParen | comma => cases h

end Expr

/-- There is a token that mentions items. -/
def TokensMentionItems (ts : List Token) : Prop :=
  ∃ t ∈ ts, t.lexeme.MentionsItems

theorem tokensMentionItems_cons {l : Lexeme} {n : Nat} {ts : List Token} :
    TokensMentionItems (⟨l, n⟩ :: ts) ↔ l.MentionsItems ∨ TokensMentionItems ts := by
  simp [TokensMentionItems]

theorem tokensMentionItems_append {ts us : List Token} :
    TokensMentionItems (ts ++ us) ↔ TokensMentionItems ts ∨ TokensMentionItems us := by
  simp [TokensMentionItems, or_and_right, exists_or]

theorem not_tokensMentionItems_nil : ¬TokensMentionItems [] := by
  simp [TokensMentionItems]

open BuildCondition.Expr

mutual

/-- An expression mentions items if one of its tokens does. -/
theorem Derives.mentionsItems : ∀ {c d ts e}, Derives c d ts e →
    (e.MentionsItems ↔ TokensMentionItems ts)
  | _, _, _, _, .expr h => by rw [mentionsItems_joined, h.mentionsItems id]
  | _, _, _, _, .conjunction h => by rw [mentionsItems_joined, h.mentionsItems id]
  | _, _, _, _, .negation h => by
      rw [mentionsItems_not, h.mentionsItems, tokensMentionItems_cons]
      simp [Lexeme.MentionsItems]
  | _, _, _, _, .operand h => h.mentionsItems
  | _, _, _, _, .equality _ hl hr => by
      rw [mentionsItems_comparison, hl.mentionsItems, hr.mentionsItems, tokensMentionItems_append,
        tokensMentionItems_cons]
      simp [Lexeme.MentionsItems]
  | _, _, _, _, .loneRelation h => h.mentionsItems
  | _, _, _, _, .relation _ hl hr => by
      rw [mentionsItems_comparison, hl.mentionsItems, hr.mentionsItems, tokensMentionItems_append,
        tokensMentionItems_cons]
      simp [Lexeme.MentionsItems]
  | _, _, _, _, .lonePrimary h => h.mentionsItems
  | _, _, _, _, .group h => by
      rw [h.mentionsItems, tokensMentionItems_cons, tokensMentionItems_append,
        tokensMentionItems_cons]
      simp [Lexeme.MentionsItems, not_tokensMentionItems_nil]
  | _, _, _, _, .emptyCall => by
      simp [mentionsItems_call, TokensMentionItems, Lexeme.MentionsItems]
  | _, _, _, _, .call h => by
      rw [mentionsItems_call, h.mentionsItems id, tokensMentionItems_cons, tokensMentionItems_cons,
        tokensMentionItems_append, tokensMentionItems_cons]
      simp [Lexeme.MentionsItems, not_tokensMentionItems_nil]
  | _, _, _, _, .token h => by
      rw [mentionsItems_operand? h]
      simp [TokensMentionItems]

theorem DerivesList.mentionsItems : ∀ {sep c d ts first others},
    DerivesList sep c d ts first others → ¬sep.MentionsItems →
    ((∃ e ∈ first :: others, e.MentionsItems) ↔ TokensMentionItems ts)
  | _, _, _, _, _, _, .last h, _ => by
      rw [← h.mentionsItems]
      simp
  | _, _, _, _, _, _, .more h hs, hsep => by
      rw [mentionsItems_cons, h.mentionsItems, hs.mentionsItems hsep, tokensMentionItems_append,
        tokensMentionItems_cons, or_iff_right hsep]

end

/-! ## §2  Conditions -/

theorem not_restricts_of_parse {limit : Nat} {condition : String} {f : Failure}
    (h : Expr.parse .everything limit condition = .error f) : ¬f.cause.Restricts := by
  cases reports_of_ofLexed h with
  | ending hend => exact fun hrestricts => hrestricts.stage_ne (stage_lexAt hend)
  | unexpected => exact fun hrestricts => by rcases hrestricts with h | h <;> cases h
  | tooDeep => exact fun hrestricts => by rcases hrestricts with h | h <;> cases h

theorem parse_of_breaksOff {limit : Nat} {free restricted : Lexed} (h : BreaksOff free restricted) :
    ∃ f, ofLexed limit restricted = .error f ∧
      (f.cause.Restricts ∨ ofLexed limit free = .error f) := by
  obtain ⟨ts, tail, f, rfl, hcause, hfree, _⟩ := h
  obtain ⟨tokens, ending⟩ := free
  cases hfree
  rcases ofLexed_of_brokenOff limit ts tail ending f with hf | hsame
  · exact ⟨f, hf, .inl hcause⟩
  · cases hresult : ofLexed limit ⟨ts, .error f⟩ with
    | error g => exact ⟨g, rfl, .inr (hsame ▸ hresult)⟩
    | ok e =>
        obtain ⟨⟨n, hn⟩, _⟩ := ofLexed_eq_ok_iff.mp hresult
        cases hn

/-- **Allowing properties only refuses items and changes nothing else.** A condition has the same
expression or failure as where everything is allowed, or is refused for its items, which never
happens there. What can be put together there is refused if its expression mentions items, and only
then. -/
theorem parse_propertiesOnly (limit : Nat) (condition : String) :
    (Expr.parse .propertiesOnly limit condition = Expr.parse .everything limit condition ∨
      ∃ f, Expr.parse .propertiesOnly limit condition = .error f ∧ f.cause.Restricts) ∧
    (∀ f, Expr.parse .everything limit condition = .error f → ¬f.cause.Restricts) ∧
    ∀ e, Expr.parse .everything limit condition = .ok e →
      ((∃ f, Expr.parse .propertiesOnly limit condition = .error f) ↔ e.MentionsItems) := by
  refine ⟨?_, fun f => not_restricts_of_parse, fun e he => ?_⟩
  · rcases lexAt_restricted 0 condition.toList with ⟨hsame, _⟩ | hbreaks
    · exact .inl (congrArg (ofLexed limit) hsame)
    · obtain ⟨f, hf, hcause | hfree⟩ := parse_of_breaksOff hbreaks
      · exact .inr ⟨f, hf, hcause⟩
      · exact .inl (hf.trans hfree.symm)
  · obtain ⟨⟨n, hn⟩, d, _, hderives⟩ := ofLexed_eq_ok_iff.mp he
    rw [hderives.mentionsItems]
    rcases lexAt_restricted 0 condition.toList with ⟨hsame, hnone⟩ | hbreaks
    · have hok : Expr.parse .propertiesOnly limit condition = .ok e :=
        (congrArg (ofLexed limit) hsame).trans he
      constructor
      · rintro ⟨f, hf⟩
        rw [hok] at hf
        cases hf
      · rintro ⟨t, ht, hmentions⟩
        exact absurd hmentions (hnone t ht)
    · -- where everything is allowed cutting went well, so one of the missing tokens mentions items
      obtain ⟨f, hf, _⟩ := parse_of_breaksOff hbreaks
      obtain ⟨ts, tail, _, _, _, hfree, hmentions⟩ := hbreaks
      obtain ⟨t, ht, hmention⟩ := hmentions ⟨n, hn⟩
      refine iff_of_true ⟨f, hf⟩ ⟨t, ?_, hmention⟩
      rw [show (lex .everything condition.toList).tokens = ts ++ tail from hfree]
      exact List.mem_append_right ts ht

end BuildCondition
