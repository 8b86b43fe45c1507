import BuildCondition.Proofs.Grammar.Parser
import BuildCondition.Proofs.Token

/-!
# The conditions that are accepted

A condition is put together exactly when it can be cut into tokens and these are a sentence of the
grammar, nested less deeply than the limit (§1). No sentence has more levels than characters, so a
limit beyond the length of the condition leaves the grammar alone (§2).
-/

namespace BuildCondition

open BuildCondition.Expr

/-! ## §1  Tokens that end well -/

namespace Expr

theorem finish_eq_ok {s : Surroundings} {result : Expr × List Token} {e : Expr} :
    s.finish result = .ok e ↔ result = (e, []) ∧ ∃ n, s.ending = .ok n := by
  obtain ⟨e', rest⟩ := result
  cases rest with
  | nil =>
      simp only [Surroundings.finish, map_eq_ok, Prod.mk.injEq, and_true]
      constructor
      · rintro ⟨n, hn, rfl⟩
        exact ⟨rfl, n, hn⟩
      · rintro ⟨rfl, n, hn⟩
        exact ⟨n, hn, rfl⟩
  | cons t rest =>
      constructor
      · intro h
        exact absurd h Surroundings.unexpected_ne_ok
      · rintro ⟨h, _⟩
        cases h

theorem ofLexed_eq_ok_iff {limit : Nat} {l : Lexed} {e : Expr} :
    ofLexed limit l = .ok e ↔
      (∃ n, l.ending = .ok n) ∧ ∃ d < limit, Derives .expr d l.tokens e := by
  rw [ofLexed, bind_eq_ok]
  constructor
  · rintro ⟨result, hexpr, hfinish⟩
    obtain ⟨rfl, hending⟩ := finish_eq_ok.mp hfinish
    obtain ⟨d, used, hd, hused, he⟩ := Surroundings.accepts_expr limit _ _ _ hexpr
    rw [List.append_nil] at hused
    rw [hused]
    exact ⟨hending, d, hd, he⟩
  · rintro ⟨hending, d, hd, he⟩
    obtain ⟨levels, rfl⟩ : ∃ k, limit = k + 1 := Nat.exists_eq_add_one.mpr (by omega)
    refine ⟨(e, []), ?_, finish_eq_ok.mpr ⟨rfl, hending⟩⟩
    have hread : Surroundings.reader ⟨levels + 1, l.ending, l.tokens.length⟩ levels .expr
        (l.tokens ++ []) = .ok (e, []) :=
      he.reads (Nat.le_of_lt_succ hd) (Nat.le_refl _) (fun t ht => by cases ht)
    rw [List.append_nil] at hread
    exact hread

end Expr

/-- The grammar is unambiguous: a parser finds every expression that tokens make, and finds one. -/
theorem Sentence.unique {ts : List Token} {e e' : Expr} (h : Sentence ts e)
    (h' : Sentence ts e') : e = e' := by
  obtain ⟨d, h⟩ := h
  obtain ⟨d', h'⟩ := h'
  -- one limit does for both derivations
  have hparse : ofLexed (max d d' + 1) ⟨ts, .ok 0⟩ = .ok e :=
    ofLexed_eq_ok_iff.mpr ⟨⟨0, rfl⟩, d, by omega, h⟩
  have hparse' : ofLexed (max d d' + 1) ⟨ts, .ok 0⟩ = .ok e' :=
    ofLexed_eq_ok_iff.mpr ⟨⟨0, rfl⟩, d', by omega, h'⟩
  rw [hparse] at hparse'
  cases hparse'
  rfl

/-! ## §2  Whole conditions -/

theorem tokenize_eq_ok_iff {mode : Mode} {condition : String} {ts : List Token} {n : Nat} :
    tokenize mode condition = .ok (ts.map .token ++ [.endOfInput n]) ↔
      lex mode condition.toList = ⟨ts, .ok n⟩ := by
  rw [tokenize, Lexed.terminals, map_eq_ok]
  constructor
  · rintro ⟨k, hk, hts⟩
    obtain ⟨htokens, hend⟩ := List.append_inj' hts rfl
    have hsame := (List.map_inj_right fun _ _ => Terminal.token.inj).mp htokens
    cases hend
    rw [← hsame, ← hk]
  · intro h
    rw [h]
    exact ⟨_, rfl, rfl⟩

theorem parse_eq_ok_iff {mode : Mode} {limit : Nat} {condition : String} {e : Expr} :
    Expr.parse mode limit condition = .ok e ↔
      ∃ ts, lex mode condition.toList = ⟨ts, .ok condition.length⟩ ∧
        ∃ d < limit, Derives .expr d ts e := by
  rw [Expr.parse, ofLexed_eq_ok_iff]
  constructor
  · rintro ⟨⟨n, hn⟩, hderives⟩
    have hlength : n = condition.length := by
      rw [ending_lexAt hn, Nat.zero_add, String.length_toList]
    refine ⟨_, ?_, hderives⟩
    rw [← hlength, ← hn]
  · rintro ⟨ts, hlex, hderives⟩
    rw [hlex]
    exact ⟨⟨_, rfl⟩, hderives⟩

/-- A condition has more characters than levels. -/
theorem nesting_lt_length_condition {mode : Mode} {condition : String} {ts : List Token}
    {ending : Except Failure Nat} {c : Category} {d : Nat} {e : Expr}
    (hlex : lex mode condition.toList = ⟨ts, ending⟩) (he : Derives c d ts e) :
    d < condition.length := by
  have hcount : (lex mode condition.toList).tokens.length ≤ condition.toList.length :=
    length_tokens_lexAt mode 0 condition.toList
  rw [hlex, String.length_toList] at hcount
  exact Nat.lt_of_lt_of_le he.nesting_lt_length hcount

/-- **A condition is accepted exactly if its tokens are a sentence of the grammar**, and then the
expression is the only one that they make. A limit beyond the length of the condition is never
reached. -/
theorem parse_eq_ok_iff_sentence {mode : Mode} {limit : Nat} {condition : String} {e : Expr}
    (hlimit : condition.length < limit) :
    Expr.parse mode limit condition = .ok e ↔
      ∃ ts, tokenize mode condition = .ok (ts.map .token ++ [.endOfInput condition.length]) ∧
        Sentence ts e ∧ ∀ e', Sentence ts e' → e' = e := by
  rw [parse_eq_ok_iff]
  constructor
  · rintro ⟨ts, hlex, d, _, he⟩
    exact ⟨ts, tokenize_eq_ok_iff.mpr hlex, ⟨d, he⟩, fun e' he' => he'.unique ⟨d, he⟩⟩
  · rintro ⟨ts, hts, ⟨d, he⟩, _⟩
    have hlex := tokenize_eq_ok_iff.mp hts
    exact ⟨ts, hlex, d, Nat.lt_trans (nesting_lt_length_condition hlex he) hlimit, he⟩

/-- A negation covers a whole comparison. -/
theorem sentence_of_negated_comparison :
    "!a == 'b'".length < 10 ∧
      ∃ ts, tokenize .everything "!a == 'b'" =
          .ok (ts.map .token ++ [.endOfInput "!a == 'b'".length]) ∧
        Sentence ts (.not 0 (.comparison .equal (.ofWord 1 "a") (.ofQuoted 6 "b"))) ∧
        ∀ e', Sentence ts e' →
          e' = .not 0 (.comparison .equal (.ofWord 1 "a") (.ofQuoted 6 "b")) :=
  ⟨by decide, (@parse_eq_ok_iff_sentence _ 10 _ _ (by decide)).mp (by rfl)⟩

end BuildCondition
