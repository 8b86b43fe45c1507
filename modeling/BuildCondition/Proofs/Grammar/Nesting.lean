import BuildCondition.Proofs.Grammar.Acceptance

/-!
# How deep conditions are nested

How many groups, arguments and negations there are around a token can be told by going through the
tokens from left to right (§1). In a sentence of the grammar, the largest number around any operand
or function name is the nesting of the derivation, which is what is held against the limit (§2).
-/

namespace BuildCondition

/-! ## §1  Going through the tokens -/

/-- A place among the tokens: how many levels there are around the innermost parentheses that are
open, themselves included, and how many around the place, where there may be negations besides. -/
structure Standing where
  group : Nat
  level : Nat

namespace Standing

/-- Outside of everything. -/
def outside : Standing := ⟨0, 0⟩

/-- Behind a `!`. What it negates is one level deeper. -/
def negated (here : Standing) : Standing := ⟨here.group, here.level + 1⟩

/-- Behind an opening parenthesis. -/
def inside (here : Standing) : Standing := ⟨here.level + 1, here.level + 1⟩

/-- Behind a connective or a comma, where what was negated has come to its end. -/
def apart (here : Standing) : Standing := ⟨here.group, here.group⟩

end Standing

/-- The largest number of groups, arguments and negations that any operand or function name lies
inside. The places before the parentheses that are open are in `outer`. -/
def deepest (outer : List Standing) (here : Standing) : List Token → Nat
  | [] => 0
  | t :: ts =>
      match t.lexeme with
      | .not => deepest outer here.negated ts
      | .leftParen => deepest (here :: outer) here.inside ts
      | .rightParen =>
          match outer with
          | [] => deepest [] here.apart ts
          | around :: outer => deepest outer around ts
      | .connective _ => deepest outer here.apart ts
      | .comma => deepest outer here.apart ts
      | .comparison _ => deepest outer here ts
      | _ => max here.level (deepest outer here ts)

/-- The largest number for the tokens of a whole condition. -/
def nesting (ts : List Token) : Nat :=
  deepest [] .outside ts

/-- What joins the items of a list. -/
def Lexeme.Separates (l : Lexeme) : Prop :=
  l = .comma ∨ ∃ op, l = .connective op

/-- Nothing that is negated goes on with these tokens. -/
def EndsNegation : List Token → Prop
  | [] => True
  | t :: _ => t.lexeme = .rightParen ∨ t.lexeme.Separates

/-! ## §2  Going through a derivation -/

section Deepest

variable {outer : List Standing} {here : Standing} {ts : List Token} {t : Token} {e : Expr}

theorem deepest_operand? (h : t.operand? = some e) :
    deepest outer here (t :: ts) = max here.level (deepest outer here ts) := by
  obtain ⟨l, n⟩ := t
  cases l <;> first | rfl | cases h

theorem deepest_separator {l : Lexeme} {n : Nat} (h : l.Separates) :
    deepest outer here (⟨l, n⟩ :: ts) = deepest outer here.apart ts := by
  rcases h with rfl | ⟨op, rfl⟩ <;> rfl

theorem deepest_comparison {op : Comparison} {n : Nat} :
    deepest outer here (⟨.comparison op, n⟩ :: ts) = deepest outer here ts := rfl

/-- Where nothing negated goes on, it does not matter how many negations there were. -/
theorem deepest_negated (h : EndsNegation ts) :
    deepest outer here.negated ts = deepest outer here ts := by
  cases ts with
  | nil => rfl
  | cons t ts =>
      obtain ⟨l, n⟩ := t
      rcases h with hl | hl
      · obtain rfl : l = .rightParen := hl
        cases outer <;> rfl
      · rw [deepest_separator hl, deepest_separator hl]
        rfl

/-- A negation is as deep as what it negates, and one more. -/
theorem deepest_negation {rest : List Token} {n d : Nat} (hrest : EndsNegation rest)
    (h : deepest outer here.negated (ts ++ rest) =
      max (here.negated.level + d) (deepest outer here.negated rest)) :
    deepest outer here (⟨.not, n⟩ :: ts ++ rest) =
      max (here.level + (d + 1)) (deepest outer here rest) := by
  rw [deepest_negated hrest] at h
  rw [Nat.add_comm d, ← Nat.add_assoc]
  exact h

/-- So is a group, and it ends its negations itself. -/
theorem deepest_group {rest : List Token} {m n d : Nat}
    (h : deepest (here :: outer) here.inside (ts ++ ⟨.rightParen, n⟩ :: rest) =
      max (here.inside.level + d)
        (deepest (here :: outer) here.inside (⟨.rightParen, n⟩ :: rest))) :
    deepest outer here (⟨.leftParen, m⟩ :: (ts ++ [⟨.rightParen, n⟩]) ++ rest) =
      max (here.level + (d + 1)) (deepest outer here rest) := by
  rw [List.cons_append, List.append_assoc, Nat.add_comm d, ← Nat.add_assoc]
  exact h

/-- The name of a call is less deep than its arguments. -/
theorem deepest_call {rest : List Token} {name : String} {k m n d : Nat}
    (h : deepest (here :: outer) here.inside (ts ++ ⟨.rightParen, n⟩ :: rest) =
      max (here.inside.level + d)
        (deepest (here :: outer) here.inside (⟨.rightParen, n⟩ :: rest))) :
    deepest outer here
        (⟨.functionName name, k⟩ :: ⟨.leftParen, m⟩ :: (ts ++ [⟨.rightParen, n⟩]) ++ rest) =
      max (here.level + (d + 1)) (deepest outer here rest) := by
  show max here.level
    (deepest outer here (⟨.leftParen, m⟩ :: (ts ++ [⟨.rightParen, n⟩]) ++ rest)) = _
  rw [deepest_group h]
  omega

end Deepest

/-- Whether tokens of a category may stand `here`, with `rest` behind them. What is negated ends
with the next separator, so an operand is read up to there, and a list starts outside of
negations. -/
def Category.Fits (c : Category) (here : Standing) (rest : List Token) : Prop :=
  match c with
  | .expr | .conjunction => here.apart = here ∧ EndsNegation rest
  | .operand => EndsNegation rest
  | .equality | .relation | .primary => True

theorem Category.fits_of_apart {here : Standing} {rest : List Token} (c : Category)
    (hhere : here.apart = here) (hrest : EndsNegation rest) : c.Fits here rest := by
  cases c with
  | expr => exact ⟨hhere, hrest⟩
  | conjunction => exact ⟨hhere, hrest⟩
  | operand => exact hrest
  | equality => trivial
  | relation => trivial
  | primary => trivial

mutual

/-- What comes from a category is nested as deep as its derivation, from the level it stands at. -/
theorem Derives.deepest_append : ∀ {c d ts e}, Derives c d ts e →
    ∀ ⦃outer here rest⦄, c.Fits here rest →
      deepest outer here (ts ++ rest) = max (here.level + d) (deepest outer here rest)
  | _, _, _, _, .expr h => fun _ _ _ hfits =>
      h.deepest_append (.inr ⟨_, rfl⟩) hfits.1 hfits.2
  | _, _, _, _, .conjunction h => fun _ _ _ hfits =>
      h.deepest_append (.inr ⟨_, rfl⟩) hfits.1 hfits.2
  | _, _, _, _, .negation h => fun _ _ _ hfits =>
      deepest_negation hfits (h.deepest_append hfits)
  | _, _, _, _, .operand h => fun _ _ _ _ => h.deepest_append trivial
  | _, _, _, _, .equality _ h h' => fun _ _ _ _ => by
      rw [List.append_assoc, h.deepest_append trivial, List.cons_append, deepest_comparison,
        h'.deepest_append trivial, ← Nat.max_assoc, Nat.add_max_add_left]
  | _, _, _, _, .loneRelation h => fun _ _ _ _ => h.deepest_append trivial
  | _, _, _, _, .relation _ h h' => fun _ _ _ _ => by
      rw [List.append_assoc, h.deepest_append trivial, List.cons_append, deepest_comparison,
        h'.deepest_append trivial, ← Nat.max_assoc, Nat.add_max_add_left]
  | _, _, _, _, .lonePrimary h => fun _ _ _ _ => h.deepest_append trivial
  | _, _, _, _, .group h => fun _ _ _ _ => deepest_group (h.deepest_append ⟨rfl, Or.inl rfl⟩)
  | _, _, _, _, .emptyCall => fun _ _ _ _ => rfl
  | _, _, _, _, .call h => fun _ _ _ _ =>
      deepest_call (h.deepest_append (.inl rfl) rfl (Or.inl rfl))
  | _, _, _, _, .token h => fun _ _ _ _ => deepest_operand? h

theorem DerivesList.deepest_append : ∀ {sep c d ts first others},
    DerivesList sep c d ts first others → sep.Separates →
    ∀ ⦃outer here rest⦄, here.apart = here → EndsNegation rest →
      deepest outer here (ts ++ rest) = max (here.level + d) (deepest outer here rest)
  | _, _, _, _, _, _, .last h => fun _ _ _ _ hhere hrest =>
      h.deepest_append (Category.fits_of_apart _ hhere hrest)
  | _, _, _, _, _, _, .more h h' => by
      intro hsep outer here rest hhere hrest
      have hfits : ∀ {c : Category} {n us}, c.Fits here (⟨_, n⟩ :: us) := fun {c} _ _ =>
        c.fits_of_apart hhere (Or.inr hsep)
      rw [List.append_assoc, List.cons_append, h.deepest_append hfits, deepest_separator hsep,
        hhere, h'.deepest_append hsep hhere hrest,
        ← Nat.max_assoc, Nat.add_max_add_left]

end

/-- **The nesting of a derivation can be told from the tokens.** -/
theorem Derives.nesting_eq {d : Nat} {ts : List Token} {e : Expr} (h : Derives .expr d ts e) :
    nesting ts = d := by
  have hdeepest : deepest [] .outside (ts ++ []) = max (0 + d) 0 :=
    h.deepest_append ⟨rfl, trivial⟩
  rw [List.append_nil] at hdeepest
  rw [nesting, hdeepest]
  omega

example : nesting (lex .everything "!(f(a, !b) or c)".toList).tokens = 4 := by rfl

end BuildCondition
