import BuildCondition.Expr
import BuildCondition.Token

/-!
# The grammar of conditions

Which tokens make an expression, and which one they make, is a matter of a grammar and needs no
parser:

    expr        -> conjunction ("or" conjunction)*
    conjunction -> operand ("and" operand)*
    operand     -> "!" operand | equality
    equality    -> relation (("==" | "!=") relation)?
    relation    -> primary (("<" | "<=" | ">" | ">=") primary)?
    primary     -> "(" expr ")" | FUNCTION "(" (expr ("," expr)*)? ")"
                 | STRING | NUMERAL | REFERENCE

A derivation is kept together with two things that follow from it. One is the expression: a chain
is flat, a lone operand stays as it is, and parentheses leave nothing behind. The other is the
nesting: how many groups, arguments and negations there are around the innermost operand. The
expression does not tell the nesting, for parentheses count.
-/

namespace BuildCondition

/-! ## §1  Derivations -/

/-- What stands on the left of a rule. -/
inductive Category where
  | expr
  | conjunction
  | operand
  | equality
  | relation
  | primary
  deriving DecidableEq

/-- The expression that a token is on its own, if it is one. -/
def Token.operand? (t : Token) : Option Expr :=
  match t.lexeme with
  | .word s => some (.ofWord t.offset s)
  | .quoted s => some (.ofQuoted t.offset s)
  | .numeral s => some (.ofNumeral t.offset s)
  | .reference r => some (.reference t.offset r)
  | _ => none

/-- An operand of one token stands where the token does and has its text. -/
theorem Token.operand?_cases {t : Token} {e : Expr} (h : t.operand? = some e) :
    (∃ v s, e = .literal t.offset v s ∧
      (t.lexeme = .word s ∨ t.lexeme = .quoted s ∨ t.lexeme = .numeral s)) ∨
    (∃ s, e = .template t.offset s ∧ t.lexeme = .quoted s) ∨
    ∃ r, e = .reference t.offset r ∧ t.lexeme = .reference r := by
  obtain ⟨l, n⟩ := t
  cases l with
  | word s =>
      cases h
      unfold Expr.ofWord
      split <;> exact .inl ⟨_, s, rfl, .inl rfl⟩
  | quoted s =>
      cases h
      unfold Expr.ofQuoted
      split
      · exact .inr (.inl ⟨s, rfl, rfl⟩)
      · exact .inl ⟨_, s, rfl, .inr (.inl rfl)⟩
  | numeral s =>
      cases h
      unfold Expr.ofNumeral
      split <;> exact .inl ⟨_, s, rfl, .inr (.inr rfl)⟩
  | reference r =>
      cases h
      exact .inr (.inr ⟨r, rfl, rfl⟩)
  | functionName | connective | not | comparison | leftParen | rightParen | comma => cases h

mutual

/-- `Derives c d ts e`: the tokens `ts` come from `c`, they make the expression `e`, and the
nesting is `d`. -/
inductive Derives : Category → Nat → List Token → Expr → Prop
  | expr {d ts first others} :
      DerivesList (.connective .or) .conjunction d ts first others →
      Derives .expr d ts (.joined .or first others)
  | conjunction {d ts first others} :
      DerivesList (.connective .and) .operand d ts first others →
      Derives .conjunction d ts (.joined .and first others)
  | negation {d n ts e} :
      Derives .operand d ts e → Derives .operand (d + 1) (⟨.not, n⟩ :: ts) (.not n e)
  | operand {d ts e} : Derives .equality d ts e → Derives .operand d ts e
  | equality {op d d' n ls rs l r} :
      op.isEquality = true → Derives .relation d ls l → Derives .relation d' rs r →
      Derives .equality (max d d') (ls ++ ⟨.comparison op, n⟩ :: rs) (.comparison op l r)
  | loneRelation {d ts e} : Derives .relation d ts e → Derives .equality d ts e
  | relation {op d d' n ls rs l r} :
      op.isEquality = false → Derives .primary d ls l → Derives .primary d' rs r →
      Derives .relation (max d d') (ls ++ ⟨.comparison op, n⟩ :: rs) (.comparison op l r)
  | lonePrimary {d ts e} : Derives .primary d ts e → Derives .relation d ts e
  | group {d m n ts e} :
      Derives .expr d ts e →
      Derives .primary (d + 1) (⟨.leftParen, m⟩ :: (ts ++ [⟨.rightParen, n⟩])) e
  | emptyCall {name k m n} :
      Derives .primary 0 [⟨.functionName name, k⟩, ⟨.leftParen, m⟩, ⟨.rightParen, n⟩]
        (.call k name [])
  | call {name d k m n ts first others} :
      DerivesList .comma .expr d ts first others →
      Derives .primary (d + 1)
        (⟨.functionName name, k⟩ :: ⟨.leftParen, m⟩ :: (ts ++ [⟨.rightParen, n⟩]))
        (.call k name (first :: others))
  | token {t e} : t.operand? = some e → Derives .primary 0 [t] e

/-- `DerivesList sep c d ts first others`: the tokens come from `c (sep c)*`, and the items make
the expressions `first` and `others`. -/
inductive DerivesList : Lexeme → Category → Nat → List Token → Expr → List Expr → Prop
  | last {sep c d ts e} : Derives c d ts e → DerivesList sep c d ts e []
  | more {sep c d d' n ts us e e' es} :
      Derives c d ts e → DerivesList sep c d' us e' es →
      DerivesList sep c (max d d') (ts ++ ⟨sep, n⟩ :: us) e (e' :: es)

end

/-- The tokens are a sentence of the grammar, and the expression is what they make. -/
def Sentence (ts : List Token) (e : Expr) : Prop :=
  ∃ d, Derives .expr d ts e

namespace Derives

/-! ## §2  Where derivations start, and how deep they are -/

/-- No derivation starts with the parenthesis that would end it, and a negation is not part of
anything tighter than an operand. -/
def Opens (c : Category) (t : Token) : Prop :=
  t.lexeme ≠ .rightParen ∧ (c = .equality ∨ c = .relation ∨ c = .primary → t.lexeme ≠ .not)

theorem opens_of_operand? {c : Category} {t : Token} {e : Expr} (h : t.operand? = some e) :
    Opens c t := by
  constructor
  · intro ht
    simp [Token.operand?, ht] at h
  · intro _ ht
    simp [Token.operand?, ht] at h

end Derives

mutual

theorem Derives.opens : ∀ {c d ts e}, Derives c d ts e →
    ∃ t us, ts = t :: us ∧ Derives.Opens c t
  | _, _, _, _, .expr h => by
      obtain ⟨t, us, rfl, ht⟩ := h.opens
      exact ⟨t, us, rfl, ht.1, by simp⟩
  | _, _, _, _, .conjunction h => by
      obtain ⟨t, us, rfl, ht⟩ := h.opens
      exact ⟨t, us, rfl, ht.1, by simp⟩
  | _, _, _, _, .negation _ => ⟨_, _, rfl, by simp, by simp⟩
  | _, _, _, _, .operand h => by
      obtain ⟨t, us, rfl, ht⟩ := h.opens
      exact ⟨t, us, rfl, ht.1, by simp⟩
  | _, _, _, _, .equality _ h _ => by
      obtain ⟨t, us, rfl, ht⟩ := h.opens
      exact ⟨t, _, rfl, ht.1, fun _ => ht.2 (by simp)⟩
  | _, _, _, _, .loneRelation h => by
      obtain ⟨t, us, rfl, ht⟩ := h.opens
      exact ⟨t, us, rfl, ht.1, fun _ => ht.2 (by simp)⟩
  | _, _, _, _, .relation _ h _ => by
      obtain ⟨t, us, rfl, ht⟩ := h.opens
      exact ⟨t, _, rfl, ht.1, fun _ => ht.2 (by simp)⟩
  | _, _, _, _, .lonePrimary h => by
      obtain ⟨t, us, rfl, ht⟩ := h.opens
      exact ⟨t, us, rfl, ht.1, fun _ => ht.2 (by simp)⟩
  | _, _, _, _, .group _ => ⟨_, _, rfl, by simp, by simp⟩
  | _, _, _, _, .emptyCall => ⟨_, _, rfl, by simp, by simp⟩
  | _, _, _, _, .call _ => ⟨_, _, rfl, by simp, by simp⟩
  | _, _, _, _, .token h => ⟨_, _, rfl, Derives.opens_of_operand? h⟩

theorem DerivesList.opens : ∀ {sep c d ts first others}, DerivesList sep c d ts first others →
    ∃ t us, ts = t :: us ∧ Derives.Opens c t
  | _, _, _, _, _, _, .last h => h.opens
  | _, _, _, _, _, _, .more h _ => by
      obtain ⟨t, us, rfl, ht⟩ := h.opens
      exact ⟨t, _, rfl, ht⟩

end

mutual

/-- Every level of nesting takes a token, and so does the operand inside. -/
theorem Derives.nesting_lt_length : ∀ {c d ts e}, Derives c d ts e → d < ts.length
  | _, _, _, _, .expr h => h.nesting_lt_length
  | _, _, _, _, .conjunction h => h.nesting_lt_length
  | _, _, _, _, .negation h => Nat.succ_lt_succ h.nesting_lt_length
  | _, _, _, _, .operand h => h.nesting_lt_length
  | _, _, _, _, .equality _ h h' => by
      have := h.nesting_lt_length
      have := h'.nesting_lt_length
      simp only [List.length_append, List.length_cons]
      omega
  | _, _, _, _, .loneRelation h => h.nesting_lt_length
  | _, _, _, _, .relation _ h h' => by
      have := h.nesting_lt_length
      have := h'.nesting_lt_length
      simp only [List.length_append, List.length_cons]
      omega
  | _, _, _, _, .lonePrimary h => h.nesting_lt_length
  | _, _, _, _, .group h => by
      have := h.nesting_lt_length
      simp only [List.length_append, List.length_cons]
      omega
  | _, _, _, _, .emptyCall => Nat.zero_lt_succ _
  | _, _, _, _, .call h => by
      have := h.nesting_lt_length
      simp only [List.length_append, List.length_cons]
      omega
  | _, _, _, _, .token _ => Nat.zero_lt_one

theorem DerivesList.nesting_lt_length : ∀ {sep c d ts first others},
    DerivesList sep c d ts first others → d < ts.length
  | _, _, _, _, _, _, .last h => h.nesting_lt_length
  | _, _, _, _, _, _, .more h h' => by
      have := h.nesting_lt_length
      have := h'.nesting_lt_length
      simp only [List.length_append, List.length_cons]
      omega

end

namespace Derives

variable {c : Category} {d : Nat} {ts : List Token} {e : Expr}

/-- What needs no parentheses may stand wherever an operand may. -/
theorem to_operand (h : Derives .primary d ts e) : Derives .operand d ts e :=
  .operand (.loneRelation (.lonePrimary h))

theorem to_conjunction (h : Derives .operand d ts e) : Derives .conjunction d ts e :=
  .conjunction (.last h)

theorem to_expr (h : Derives .operand d ts e) : Derives .expr d ts e :=
  .expr (.last h.to_conjunction)

/-- Any comparison may stand between two operands that need no parentheses. -/
theorem compared {d' n : Nat} {us : List Token} {e' : Expr} {op : Comparison}
    (h : Derives .primary d ts e) (h' : Derives .primary d' us e') :
    Derives .expr (max d d') (ts ++ ⟨.comparison op, n⟩ :: us) (.comparison op e e') := by
  refine to_expr (.operand ?_)
  cases hop : op.isEquality with
  | true => exact .equality hop (.lonePrimary h) (.lonePrimary h')
  | false => exact .loneRelation (.relation hop h h')

end Derives

/-- What a connective joins. -/
def Connective.joins : Connective → Category
  | .or => .conjunction
  | .and => .operand

namespace Derives

variable {d : Nat} {ts : List Token} {op : Connective}

theorem to_joined {e : Expr} (h : Derives .primary d ts e) : Derives op.joins d ts e := by
  cases op with
  | or => exact h.to_operand.to_conjunction
  | and => exact h.to_operand

theorem chain {first : Expr} {others : List Expr}
    (h : DerivesList (.connective op) op.joins d ts first others) :
    Derives .expr d ts (.joined op first others) := by
  cases op with
  | or => exact .expr h
  | and => exact .expr (.last (.conjunction h))

end Derives

end BuildCondition
