import BuildCondition.Proofs.Token

/-!
# Tokens tile a condition

A token has a range of characters: those of its lexeme, its quotes included, from its offset on. In
a text that is cut to its end the ranges follow one another without overlap, what is between them is
blank, and each holds the lexeme of its token as it is written (§1). Cutting adds one blank or one
range at a time, and either way a tiling of the rest becomes one of the whole (§2).
-/

namespace BuildCondition

open BuildCondition.Text

/-! ## §1  Ranges -/

/-- A text is written for a lexeme if it is the source of it, up to the ASCII case of a
connective. -/
def Lexeme.WrittenAs (src : List Char) : Lexeme → Prop
  | .connective op => src.map Char.toLower = op.text.toList
  | l => src = l.source.toList

theorem Lexeme.SpelledAs.writtenAs {src : List Char} {l : Lexeme} (h : l.SpelledAs src) :
    l.WrittenAs src := by
  cases l with
  | connective op => exact connectiveOf?_eq_some h
  | numeral | word | functionName => exact h.1
  | quoted | reference | not | comparison | leftParen | rightParen | comma => exact h

namespace Token

/-- The place behind the last character of a token. -/
def stop (t : Token) : Nat :=
  t.offset + t.lexeme.width

/-- The characters of a text that are in the range of a token. -/
def slice (t : Token) (text : List Char) : List Char :=
  (text.drop t.offset).take t.lexeme.width

theorem slice_of_drop {text src rest : List Char} {l : Lexeme} {position : Nat}
    (htext : text.drop position = src ++ rest) (hwidth : src.length = l.width) :
    slice ⟨l, position⟩ text = src := by
  rw [slice, htext, ← hwidth, List.take_left]

end Token

/-- Some tokens tile what a text holds from a place on. -/
structure Tiles (text : List Char) (position : Nat) (ts : List Token) : Prop where
  /-- each token has a range of at least one character in the text -/
  ranges : ∀ t ∈ ts, position ≤ t.offset ∧ t.offset < t.stop ∧ t.stop ≤ text.length
  /-- the ranges are in order, and no two have a character in common -/
  ordered : ts.Pairwise fun t u => t.stop ≤ u.offset
  /-- in the range of a token stands its lexeme -/
  written : ∀ t ∈ ts, t.lexeme.WrittenAs (t.slice text)
  /-- outside the ranges there is nothing but blanks -/
  blank : ∀ i c, position ≤ i → text[i]? = some c → (∀ t ∈ ts, i < t.offset ∨ t.stop ≤ i) →
    isBlank c = true

/-! ## §2  Cutting -/

namespace Tiles

variable {text src rest : List Char} {position : Nat} {ts : List Token} {c : Char} {l : Lexeme}

theorem nil (h : text.drop position = []) : Tiles text position [] where
  ranges := List.forall_mem_nil _
  ordered := .nil
  written := List.forall_mem_nil _
  blank i c hi hc _ := by
    have hlength := List.drop_eq_nil_iff.mp h
    have hin := (List.getElem?_eq_some_iff.mp hc).1
    omega

theorem pass (hc : text[position]? = some c) (hblank : isBlank c = true)
    (h : Tiles text (position + 1) ts) : Tiles text position ts where
  ranges t ht := by
    have hrange := h.ranges t ht
    omega
  ordered := h.ordered
  written := h.written
  blank i d hi hd hout := by
    rcases Nat.eq_or_lt_of_le hi with rfl | hlater
    · rw [hc] at hd
      cases hd
      exact hblank
    · exact h.blank i d hlater hd hout

theorem lexeme (htext : text.drop position = src ++ rest) (hsrc : l.SpelledAs src)
    (hne : 0 < src.length) (h : Tiles text (position + src.length) ts) :
    Tiles text position (⟨l, position⟩ :: ts) where
  ranges := by
    have hlength := congrArg List.length htext
    rw [List.length_drop, List.length_append] at hlength
    refine List.forall_mem_cons.mpr ⟨?_, fun t ht => ?_⟩
    · rw [Token.stop, ← hsrc.length_eq]
      dsimp only
      omega
    · have hrange := h.ranges t ht
      omega
  ordered := by
    refine .cons (fun t ht => ?_) h.ordered
    rw [Token.stop, ← hsrc.length_eq]
    exact (h.ranges t ht).1
  written := by
    refine List.forall_mem_cons.mpr ⟨?_, h.written⟩
    rw [Token.slice_of_drop htext hsrc.length_eq]
    exact hsrc.writtenAs
  blank i d hi hd hout := by
    obtain ⟨hfirst, hothers⟩ := List.forall_mem_cons.mp hout
    -- a place that is not in the range of the first token lies behind it
    rw [Token.stop, ← hsrc.length_eq] at hfirst
    dsimp only at hfirst
    exact h.blank i d (by omega) hd hothers

end Tiles

/-- What is cut to its end is tiled from where cutting starts. -/
theorem tiles_lexAt {mode : Mode} {text cs : List Char} {position n : Nat}
    (htext : text.drop position = cs) (h : (lexAt mode position cs).ending = .ok n) :
    Tiles text position (lexAt mode position cs).tokens := by
  induction cs using pieceInduction mode generalizing position with
  | nil => exact .nil htext
  | blank c cs hblank ih =>
      obtain ⟨hc, hrest⟩ := of_drop_eq_cons htext
      rw [lexAt_blank hblank] at h ⊢
      exact .pass hc hblank (ih hrest h)
  | lexeme src l rest hsrc hrest ih =>
      rw [lexAt_lexeme hsrc hrest] at h ⊢
      obtain ⟨hspelled, c, after, rfl, _, _⟩ := hsrc
      have hbehind : text.drop (position + (c :: after).length) = rest := by
        rw [← List.drop_drop, htext, List.drop_left]
      exact .lexeme htext hspelled (Nat.succ_pos _) (ih hbehind h)
  | fault c cs f hblank hread =>
      rw [lexAt_fault hblank hread] at h
      cases h

/-- **Tokens tile the condition.** If a condition can be cut into tokens, the last of them and only
that is the end of the input, behind all characters. The others have ranges of at least one
character, in order and without overlap; every character outside of them is blank; and each is
written in its range, connectives in any ASCII case. -/
theorem tokenize_tiles {mode : Mode} {condition : String} {terminals : List Terminal}
    (h : tokenize mode condition = .ok terminals) :
    ∃ ts : List Token, terminals = ts.map .token ++ [.endOfInput condition.length] ∧
      Tiles condition.toList 0 ts := by
  obtain ⟨n, hn, rfl⟩ := map_eq_ok.mp h
  have hend : n = condition.length := by
    rw [ending_lexAt hn, Nat.zero_add, String.length_toList]
  exact ⟨(lex mode condition.toList).tokens, by rw [hend], tiles_lexAt List.drop_zero hn⟩

/-- Quotes inside an item list, an odd connective, a name apart from its parenthesis. -/
theorem tokenize_tiles_quoted_connective_call :
    tokenize .everything "'@(A->'b')' aNd\tF (1.5)" =
        .ok [.token ⟨.quoted "@(A->'b')", 0⟩, .token ⟨.connective .and, 12⟩,
          .token ⟨.functionName "F", 16⟩, .token ⟨.leftParen, 18⟩, .token ⟨.numeral "1.5", 19⟩,
          .token ⟨.rightParen, 22⟩, .endOfInput 23] ∧
      ∃ ts : List Token,
        [.token ⟨.quoted "@(A->'b')", 0⟩, .token ⟨.connective .and, 12⟩,
          .token ⟨.functionName "F", 16⟩, .token ⟨.leftParen, 18⟩, .token ⟨.numeral "1.5", 19⟩,
          .token ⟨.rightParen, 22⟩, .endOfInput 23] =
          ts.map Terminal.token ++ [.endOfInput "'@(A->'b')' aNd\tF (1.5)".length] ∧
        Tiles "'@(A->'b')' aNd\tF (1.5)".toList 0 ts := by
  have htokens : tokenize .everything "'@(A->'b')' aNd\tF (1.5)" =
      .ok [.token ⟨.quoted "@(A->'b')", 0⟩, .token ⟨.connective .and, 12⟩,
        .token ⟨.functionName "F", 16⟩, .token ⟨.leftParen, 18⟩, .token ⟨.numeral "1.5", 19⟩,
        .token ⟨.rightParen, 22⟩, .endOfInput 23] := by rfl
  exact ⟨htokens, tokenize_tiles htokens⟩

end BuildCondition
