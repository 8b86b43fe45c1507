import BuildCondition.Proofs.Grammar

/-!
# The grammar and the kinds of tokens

The grammar asks of a token no more than its kind: tokens of the same kinds, in the same order, make
an expression if the others do, though not the same one. So it can be said of kinds alone that a
sentence may start with them.
-/

namespace BuildCondition

/-- The kinds of some tokens. -/
def kinds (ts : List Token) : List String :=
  ts.map fun t => t.lexeme.kind

/-- Kinds of tokens are viable if some sentence of the grammar starts with tokens of these kinds. -/
def Viable (ks : List String) : Prop :=
  ∃ ts e, Sentence ts e ∧ ks <+: kinds ts

/-! ## §1  What a kind tells -/

namespace Lexeme

/-- The lexemes that are written in one way only, up to letter case. -/
def signs : List Lexeme :=
  [connective .or, connective .and, not, comparison .equal, comparison .notEqual, comparison .less,
   comparison .lessOrEqual, comparison .greater, comparison .greaterOrEqual, leftParen, rightParen,
   comma]

/-- The kinds of the lexemes that are operands. -/
def operandKinds : List String :=
  ["Numeric", "String", "Property", "ItemList", "ItemMetadata"]

theorem sign_or_named (l : Lexeme) :
    l ∈ signs ∨ l.kind ∈ operandKinds ∨ ∃ name, l = functionName name := by
  cases l with
  | numeral | word | quoted => exact .inr (.inl (by simp [kind, operandKinds]))
  | reference r =>
      obtain ⟨sigil, body⟩ := r
      cases sigil <;> exact .inr (.inl (by simp [kind, operandKinds]))
  | functionName name => exact .inr (.inr ⟨name, rfl⟩)
  | connective op => cases op <;> exact .inl (by decide)
  | comparison op => cases op <;> exact .inl (by decide)
  | not | leftParen | rightParen | comma => exact .inl (by decide)

theorem kind_sign_ne : ∀ l ∈ signs, l.kind ≠ "Function" ∧ l.kind ∉ operandKinds := by
  decide

theorem kind_sign_inj : ∀ l ∈ signs, ∀ l' ∈ signs, l'.kind = l.kind → l' = l := by
  decide

/-- A sign can be told by its kind. -/
theorem eq_of_kind_eq {l l' : Lexeme} (hl : l ∈ signs) (h : l'.kind = l.kind) : l' = l := by
  rcases sign_or_named l' with hl' | hl' | ⟨name, rfl⟩
  · exact kind_sign_inj l hl l' hl' h
  · exact absurd (h ▸ hl') (kind_sign_ne l hl).2
  · exact absurd h.symm (kind_sign_ne l hl).1

theorem exists_functionName {l : Lexeme} (h : l.kind = "Function") :
    ∃ name, l = functionName name := by
  rcases sign_or_named l with hl | hl | hl
  · exact absurd h (kind_sign_ne l hl).1
  · rw [h] at hl
    exact absurd hl (by decide)
  · exact hl

end Lexeme

theorem Token.kind_of_operand? {t : Token} {e : Expr} (h : t.operand? = some e) :
    t.lexeme.kind ∈ Lexeme.operandKinds := by
  rcases t.lexeme.sign_or_named with hl | hl | ⟨name, hl⟩
  · -- no sign is an operand
    obtain ⟨l, n⟩ := t
    simp only [Lexeme.signs, List.mem_cons, List.not_mem_nil, or_false] at hl
    rcases hl with rfl | rfl | rfl | rfl | rfl | rfl | rfl | rfl | rfl | rfl | rfl | rfl <;> cases h
  · exact hl
  · rw [operand?, hl] at h
    cases h

theorem Token.exists_operand? {t : Token} (h : t.lexeme.kind ∈ Lexeme.operandKinds) :
    ∃ e, t.operand? = some e := by
  obtain ⟨l, n⟩ := t
  have hsign : l ∉ Lexeme.signs := fun hl => (Lexeme.kind_sign_ne l hl).2 h
  cases l with
  | numeral | word | quoted | reference => exact ⟨_, rfl⟩
  | functionName => exact absurd h (by simp [Lexeme.kind, Lexeme.operandKinds])
  | connective op => exact absurd (by cases op <;> decide) hsign
  | comparison op => exact absurd (by cases op <;> decide) hsign
  | not | leftParen | rightParen | comma => exact absurd (by decide) hsign

/-! ## §2  Derivations of the same kinds -/

section SameKinds

variable {l : Lexeme} {n : Nat} {ts us vs : List Token}

theorem kinds_append (ts us : List Token) : kinds (ts ++ us) = kinds ts ++ kinds us :=
  List.map_append

theorem kinds_eq_cons (h : kinds us = kinds (⟨l, n⟩ :: ts)) :
    ∃ t us', us = t :: us' ∧ t.lexeme.kind = l.kind ∧ kinds us' = kinds ts := by
  obtain ⟨t, us', rfl, ht, hus⟩ := List.map_eq_cons_iff.mp h
  exact ⟨t, us', rfl, ht, hus⟩

theorem kinds_eq_cons_sign (hl : l ∈ Lexeme.signs) (h : kinds us = kinds (⟨l, n⟩ :: ts)) :
    ∃ m us', us = ⟨l, m⟩ :: us' ∧ kinds us' = kinds ts := by
  obtain ⟨t, us', rfl, ht, hus⟩ := kinds_eq_cons h
  exact ⟨t.offset, us', by rw [← Lexeme.eq_of_kind_eq hl ht], hus⟩

theorem kinds_eq_append (h : kinds vs = kinds (ts ++ us)) :
    ∃ ts' us', vs = ts' ++ us' ∧ kinds ts' = kinds ts ∧ kinds us' = kinds us := by
  rw [kinds_append] at h
  obtain ⟨ts', us', rfl, hts, hus⟩ := List.map_eq_append_iff.mp h
  exact ⟨ts', us', rfl, hts, hus⟩

end SameKinds

mutual

/-- Tokens of the same kinds as some that derive from a category derive from it. -/
theorem Derives.of_kinds_eq : ∀ {c d ts e}, Derives c d ts e → ∀ {us}, kinds us = kinds ts →
    ∃ e', Derives c d us e'
  | _, _, _, _, .expr h, us, hus => by
      obtain ⟨first, others, h'⟩ := h.of_kinds_eq (by decide) hus
      exact ⟨_, .expr h'⟩
  | _, _, _, _, .conjunction h, us, hus => by
      obtain ⟨first, others, h'⟩ := h.of_kinds_eq (by decide) hus
      exact ⟨_, .conjunction h'⟩
  | _, _, _, _, .negation h, us, hus => by
      obtain ⟨m, us', rfl, hus'⟩ := kinds_eq_cons_sign (by decide) hus
      obtain ⟨e', h'⟩ := h.of_kinds_eq hus'
      exact ⟨_, .negation h'⟩
  | _, _, _, _, .operand h, us, hus => by
      obtain ⟨e', h'⟩ := h.of_kinds_eq hus
      exact ⟨e', .operand h'⟩
  | _, _, _, _, @Derives.equality op _ _ _ _ _ _ _ hop hl hr, us, hus => by
      obtain ⟨ls, behind, rfl, hls, hbehind⟩ := kinds_eq_append hus
      obtain ⟨m, rs, rfl, hrs⟩ := kinds_eq_cons_sign (by cases op <;> decide) hbehind
      obtain ⟨l', hl'⟩ := hl.of_kinds_eq hls
      obtain ⟨r', hr'⟩ := hr.of_kinds_eq hrs
      exact ⟨_, .equality hop hl' hr'⟩
  | _, _, _, _, .loneRelation h, us, hus => by
      obtain ⟨e', h'⟩ := h.of_kinds_eq hus
      exact ⟨e', .loneRelation h'⟩
  | _, _, _, _, @Derives.relation op _ _ _ _ _ _ _ hop hl hr, us, hus => by
      obtain ⟨ls, behind, rfl, hls, hbehind⟩ := kinds_eq_append hus
      obtain ⟨m, rs, rfl, hrs⟩ := kinds_eq_cons_sign (by cases op <;> decide) hbehind
      obtain ⟨l', hl'⟩ := hl.of_kinds_eq hls
      obtain ⟨r', hr'⟩ := hr.of_kinds_eq hrs
      exact ⟨_, .relation hop hl' hr'⟩
  | _, _, _, _, .lonePrimary h, us, hus => by
      obtain ⟨e', h'⟩ := h.of_kinds_eq hus
      exact ⟨e', .lonePrimary h'⟩
  | _, _, _, _, .group h, us, hus => by
      obtain ⟨m, behind, rfl, hbehind⟩ := kinds_eq_cons_sign (by decide) hus
      obtain ⟨us', close, rfl, hus', hclose⟩ := kinds_eq_append hbehind
      obtain ⟨n, more, rfl, hmore⟩ := kinds_eq_cons_sign (by decide) hclose
      obtain ⟨e', h'⟩ := h.of_kinds_eq hus'
      rw [List.map_eq_nil_iff.mp hmore]
      exact ⟨e', .group h'⟩
  | _, _, _, _, .emptyCall, us, hus => by
      obtain ⟨⟨l, k⟩, behind, rfl, hname, hbehind⟩ := kinds_eq_cons hus
      obtain ⟨name, rfl⟩ := Lexeme.exists_functionName hname
      obtain ⟨m, close, rfl, hclose⟩ := kinds_eq_cons_sign (by decide) hbehind
      obtain ⟨n, more, rfl, hmore⟩ := kinds_eq_cons_sign (by decide) hclose
      rw [List.map_eq_nil_iff.mp hmore]
      exact ⟨_, .emptyCall⟩
  | _, _, _, _, .call h, us, hus => by
      obtain ⟨⟨l, k⟩, behind, rfl, hname, hbehind⟩ := kinds_eq_cons hus
      obtain ⟨name, rfl⟩ := Lexeme.exists_functionName hname
      obtain ⟨m, inside, rfl, hinside⟩ := kinds_eq_cons_sign (by decide) hbehind
      obtain ⟨us', close, rfl, hus', hclose⟩ := kinds_eq_append hinside
      obtain ⟨n, more, rfl, hmore⟩ := kinds_eq_cons_sign (by decide) hclose
      obtain ⟨first, others, h'⟩ := h.of_kinds_eq (by decide) hus'
      rw [List.map_eq_nil_iff.mp hmore]
      exact ⟨_, .call h'⟩
  | _, _, _, _, .token h, us, hus => by
      obtain ⟨t, more, rfl, ht, hmore⟩ := kinds_eq_cons hus
      obtain ⟨e', h'⟩ := Token.exists_operand? (ht ▸ Token.kind_of_operand? h)
      rw [List.map_eq_nil_iff.mp hmore]
      exact ⟨e', .token h'⟩

theorem DerivesList.of_kinds_eq : ∀ {sep c d ts first others},
    DerivesList sep c d ts first others → ∀ {us}, sep ∈ Lexeme.signs → kinds us = kinds ts →
    ∃ first' others', DerivesList sep c d us first' others'
  | _, _, _, _, _, _, .last h, us, _, hus => by
      obtain ⟨e', h'⟩ := h.of_kinds_eq hus
      exact ⟨e', [], .last h'⟩
  | _, _, _, _, _, _, .more h hs, us, hsep, hus => by
      obtain ⟨us', behind, rfl, hus', hbehind⟩ := kinds_eq_append hus
      obtain ⟨n, more, rfl, hmore⟩ := kinds_eq_cons_sign hsep hbehind
      obtain ⟨e', h'⟩ := h.of_kinds_eq hus'
      obtain ⟨first', others', hs'⟩ := hs.of_kinds_eq hsep hmore
      exact ⟨e', first' :: others', .more h' hs'⟩

end

/-- **Whether a sentence may start with some tokens is a matter of their kinds.** -/
theorem viable_kinds_iff {ts : List Token} :
    Viable (kinds ts) ↔ ∃ us e, Sentence (ts ++ us) e := by
  constructor
  · rintro ⟨vs, e, ⟨d, he⟩, ks, hks⟩
    -- the tokens of the sentence behind the first ones go on with the given ones just as well
    have hrest : kinds (vs.drop ts.length) = ks := by
      have hlength : (kinds ts).length = ts.length := List.length_map _
      rw [kinds, List.map_drop, ← kinds, ← hks, List.drop_left' hlength]
    have hsame : kinds (ts ++ vs.drop ts.length) = kinds vs := by
      rw [kinds_append, hrest, hks]
    obtain ⟨e', he'⟩ := he.of_kinds_eq hsame
    exact ⟨vs.drop ts.length, e', d, he'⟩
  · rintro ⟨us, e, he⟩
    exact ⟨ts ++ us, e, he, kinds us, (kinds_append ts us).symm⟩

end BuildCondition
