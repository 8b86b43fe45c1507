import BuildCondition.Proofs.Grammar.Viability

/-!
# What a parser reports

A failure to put a condition together is the one that ended the tokens, or it says of one of the
tokens, or of the end behind them, that it was not expected there or is nested too deeply.
-/

namespace BuildCondition.Expr

namespace Surroundings

/-- What may stand where a parser is that has been given some tokens. -/
def Meets (s : Surroundings) (ts : List Token) : Terminal → Prop
  | .token t => t ∈ ts
  | .endOfInput n => s.ending = .ok n

/-- The failures that a parser may report that has been given some tokens. -/
inductive Reports (s : Surroundings) (ts : List Token) : Failure → Prop
  | ending {f : Failure} : s.ending = .error f → Reports s ts f
  | unexpected {t : Terminal} : s.Meets ts t →
      Reports s ts (Failure.foundAt .unexpectedToken (t.offset + 1) t.shown)
  | tooDeep {t : Terminal} : s.Meets ts t →
      Reports s ts (Failure.ofCause .nestedTooDeeply (.beyond s.limit) (t.offset + 1))

variable {s : Surroundings} {bound : Nat} {used here : List Token} {f : Failure}

theorem meets_of_here {t : Terminal} (h : s.here here = .ok t) : s.Meets (used ++ here) t := by
  cases here with
  | nil =>
      obtain ⟨n, hn, rfl⟩ := map_eq_ok.mp h
      exact hn
  | cons u here =>
      cases h
      exact List.mem_append_right used List.mem_cons_self

theorem Blames.reports (h : s.Blames bound used here f) : s.Reports (used ++ here) f := by
  cases h with
  | ending _ hend => exact .ending hend
  | unexpected ht => exact .unexpected (meets_of_here ht)
  | tooDeep _ ht => exact .tooDeep (meets_of_here ht)

/-- What a parser reports is what ended the tokens, or points to what the parser has met. -/
theorem Reports.ending_or_met {ts : List Token} (h : s.Reports ts f) :
    s.ending = .error f ∨ ∃ t, s.Meets ts t ∧ f.position = t.offset + 1 := by
  cases h with
  | ending hend => exact .inl hend
  | unexpected ht => exact .inr ⟨_, ht, rfl⟩
  | tooDeep ht => exact .inr ⟨_, ht, rfl⟩

end Surroundings

/-- **A failure is the one that ended the tokens or is about a token or the end.** -/
theorem reports_of_ofLexed {limit : Nat} {l : Lexed} {f : Failure}
    (h : ofLexed limit l = .error f) :
    Surroundings.Reports ⟨limit, l.ending, l.tokens.length⟩ l.tokens f := by
  obtain ⟨used, here, htokens, _, hblames⟩ := begins_of_ofLexed h
  have hreports := hblames.reports
  rw [← htokens] at hreports
  exact hreports

end BuildCondition.Expr
