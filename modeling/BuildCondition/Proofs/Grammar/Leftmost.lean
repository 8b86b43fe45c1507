import BuildCondition.Proofs.Expr.Limit
import BuildCondition.Proofs.Expr.Lookahead
import BuildCondition.Proofs.Grammar.Acceptance
import BuildCondition.Proofs.Grammar.Kinds
import BuildCondition.Proofs.Mode.Lexing

/-!
# The leftmost failure

A condition that cannot be put together is refused as early as it can be told. Up to the token that
is reported a sentence could still have come, since a parser gives up nowhere else; with this token
none can, since no parser looks behind it (§1). And a lexeme that cannot be read is reported only if
nothing before it is wrong (§2).
-/

namespace BuildCondition

/-! ## §1  The token that is not expected -/

theorem eq_of_offset_eq {used used' here here' : List Token} {t t' : Token}
    (hsorted : (used ++ t :: here).Pairwise fun t u => t.offset < u.offset)
    (h : used ++ t :: here = used' ++ t' :: here') (ht : t.offset = t'.offset) :
    used = used' ∧ t = t' := by
  induction used generalizing used' with
  | nil =>
      cases used' with
      | nil =>
          cases h
          exact ⟨rfl, rfl⟩
      | cons u used' =>
          cases h
          -- the second token would stand behind the first
          have hlt := List.rel_of_pairwise_cons hsorted
            (List.mem_append_right used' List.mem_cons_self)
          exact absurd ht (Nat.ne_of_lt hlt)
  | cons u used ih =>
      cases used' with
      | nil =>
          cases h
          have hlt := List.rel_of_pairwise_cons hsorted
            (List.mem_append_right used List.mem_cons_self)
          exact absurd ht.symm (Nat.ne_of_lt hlt)
      | cons u' used' =>
          obtain ⟨rfl, htail⟩ := List.cons.inj h
          obtain ⟨rfl, rfl⟩ := ih (List.Pairwise.of_cons hsorted) htail
          exact ⟨rfl, rfl⟩

namespace Expr

/-- An unexpected token stands where the parser of the expression stops. -/
theorem StopsAt.here_eq_ok {s : Surroundings} {p : Parse Expr} {used here : List Token}
    {f : Failure} (hstops : StopsAt s p used here) (h : (p (used ++ here)).bind s.finish = .error f)
    (hcause : f.cause = .unexpectedToken) (hending : s.ending ≠ .error f) :
    ∃ t, s.here here = .ok t ∧ f.position = t.offset + 1 := by
  have hblamed : s.Blames 0 used here f → ∃ t, s.here here = .ok t ∧ f.position = t.offset + 1 := by
    intro hblames
    cases hblames with
    | ending _ hend => exact absurd hend hending
    | unexpected ht => exact ⟨_, ht, rfl⟩
    | tooDeep => cases hcause
  rcases bind_eq_error.mp h with hp | ⟨⟨e, rest⟩, hp, hfinish⟩
  · exact hblamed (hstops.blames hp)
  · obtain rfl := hstops.leaves hp
    cases rest with
    | nil => exact absurd (map_eq_error.mp hfinish) hending
    | cons t rest => exact hblamed (Surroundings.blames_unexpected hfinish)

/-- No sentence goes on with a token that is not expected. The limit and the number of tokens are
those of the condition, and the sentence may be larger, so the condition is parsed once more with
room enough for both. -/
theorem not_sentence_of_unexpected {limit : Nat} {l : Lexed} {f : Failure} {used here : List Token}
    {t : Token} (h : ofLexed limit l = .error f) (hcause : f.cause = .unexpectedToken)
    (hending : l.ending ≠ .error f) (htokens : l.tokens = used ++ t :: here)
    (hposition : f.position = t.offset + 1)
    (hsorted : l.tokens.Pairwise fun t u => t.offset < u.offset)
    (hlength : ∀ n, l.ending = .ok n → t.offset < n) (more : List Token) (e : Expr) :
    ¬Sentence (used ++ t :: more) e := by
  rintro ⟨d, he⟩
  let s : Surroundings := ⟨limit, l.ending, l.tokens.length⟩
  let s' : Surroundings :=
    ⟨limit + d + 1, l.ending, l.tokens.length + (used ++ t :: more).length⟩
  have hwider : Wider s s' := ⟨rfl, Nat.le_add_right _ _⟩
  -- with more room, the condition fails as before
  have hfails : (s'.expr (limit + d + 1) l.tokens).bind s'.finish = .error f := by
    have hlimit : limit ≤ limit + d + 1 := by omega
    rcases hwider.all hlimit (Nat.le_refl _) with ⟨g, hg, hdeep⟩ | hsame
    · obtain rfl := Except.error.inj (hg.symm.trans h)
      rw [hcause] at hdeep
      cases hdeep
    · exact hsame.trans h
  obtain ⟨used', here', htokens', hstops⟩ := looksAhead_expr s' (limit + d + 1) l.tokens
  rw [htokens'] at hfails
  obtain ⟨t', ht', hposition'⟩ := hstops.here_eq_ok hfails hcause hending
  have hoffset : t.offset = t'.offset := by omega
  cases here' with
  | nil =>
      obtain ⟨n, hn, rfl⟩ := map_eq_ok.mp ht'
      exact absurd hoffset (Nat.ne_of_lt (hlength n hn))
  | cons u here' =>
      cases ht'
      rw [htokens] at hsorted htokens'
      obtain ⟨rfl, rfl⟩ := eq_of_offset_eq hsorted htokens' hoffset
      -- and it is the same to the parser what follows the token
      have hsame := hstops.same (t :: more) rfl
      have hread : s'.reader (limit + d) .expr (used ++ t :: more ++ []) = .ok (e, []) :=
        he.reads (by omega) (Nat.le_add_left _ _) (fun u hu => by cases hu)
      rw [List.append_nil] at hread
      obtain ⟨⟨x, rest⟩, _, hx⟩ := map_eq_ok.mp (hsame.symm.trans hread)
      cases hx

end Expr

/-! ## §2  Whole conditions -/

/-- What reports a lexeme that cannot be read is no failure of a parser. -/
theorem cause_ne_of_ending {mode : Mode} {position : Nat} {cs : List Char} {f : Failure}
    (h : (lexAt mode position cs).ending = .error f) : f.cause ≠ .unexpectedToken :=
  cause_ne_of_not_lexical h (by decide) (by simp [Cause.Restricts])

/-- What a text has behind the first of its tokens: another token, or its end. -/
def Lexed.Follows (l : Lexed) (used : List Token) : Terminal → Prop
  | .token t => used ++ [t] <+: l.tokens
  | .endOfInput n => l = ⟨used, .ok n⟩

/-- Kinds of tokens stay viable with a token, or are complete at the end of the input. -/
def StaysViable (ks : List String) : Terminal → Prop
  | .token t => Viable (ks ++ [t.lexeme.kind])
  | .endOfInput _ => ∃ ts e, Sentence ts e ∧ kinds ts = ks

theorem Begins.viable {ts : List Token} (h : Begins .expr ts) : Viable (kinds ts) := by
  obtain ⟨us, d, e, he⟩ := h
  exact viable_kinds_iff.mpr ⟨us, e, d, he⟩

theorem Lexed.follows_of_here {l : Lexed} {limit n : Nat} {used here : List Token} {t : Terminal}
    (htokens : l.tokens = used ++ here)
    (ht : Expr.Surroundings.here ⟨limit, l.ending, n⟩ here = .ok t) : l.Follows used t := by
  cases here with
  | nil =>
      obtain ⟨m, hm, rfl⟩ := map_eq_ok.mp ht
      rw [List.append_nil] at htokens
      show l = ⟨used, .ok m⟩
      rw [← htokens, ← hm]
  | cons u here =>
      cases ht
      refine ⟨here, ?_⟩
      rw [htokens, List.append_assoc]
      rfl

section Refused

variable {mode : Mode} {limit : Nat} {condition : String} {f : Failure} {used here : List Token}

/-- All tokens of a condition that is refused are no sentence. -/
theorem not_staysViable_endOfInput {n : Nat} (hlimit : condition.length < limit)
    (h : Expr.parse mode limit condition = .error f)
    (hlex : lex mode condition.toList = ⟨used, .ok n⟩) :
    ¬StaysViable (kinds used) (.endOfInput n) := by
  rintro ⟨ts, e, ⟨d, he⟩, hkinds⟩
  obtain ⟨e', he'⟩ := he.of_kinds_eq hkinds.symm
  have hd := nesting_lt_length_condition hlex he'
  have hok : Expr.parse mode limit condition = .ok e' := by
    rw [Expr.parse, hlex]
    exact Expr.ofLexed_eq_ok_iff.mpr ⟨⟨n, rfl⟩, d, by omega, he'⟩
  rw [hok] at h
  cases h

theorem not_staysViable_token {t : Token} (h : Expr.parse mode limit condition = .error f)
    (hcause : f.cause = .unexpectedToken)
    (htokens : (lex mode condition.toList).tokens = used ++ t :: here)
    (hposition : f.position = t.offset + 1) : ¬StaysViable (kinds used) (.token t) := by
  intro hviable
  have hkinds : kinds used ++ [t.lexeme.kind] = kinds (used ++ [t]) := (kinds_append used [t]).symm
  rw [StaysViable, hkinds] at hviable
  obtain ⟨more, e, he⟩ := viable_kinds_iff.mp hviable
  rw [List.append_assoc, List.singleton_append] at he
  have hmem : t ∈ (lex mode condition.toList).tokens := by simp [htokens]
  refine Expr.not_sentence_of_unexpected h hcause ?_ htokens hposition
    (sorted_lexAt mode 0 condition.toList) ?_ more e he
  · intro hend
    exact cause_ne_of_ending hend hcause
  · intro n hn
    rw [ending_lexAt hn]
    exact (offset_of_mem_lexAt hmem).2

end Refused

/-- **The failure that is reported is the leftmost one.** If a token is not expected, or the end of
the condition, then what stands before it can be read and could be the beginning of a sentence, and
with it no more. Otherwise the failure is that of the first lexeme that cannot be read, and what
stands before that could be the beginning of a sentence. -/
theorem parse_fails_leftmost {mode : Mode} {limit : Nat} {condition : String} {f : Failure}
    (hlimit : condition.length < limit) (h : Expr.parse mode limit condition = .error f) :
    (f.cause = .unexpectedToken →
      ∃ used t, (lex mode condition.toList).Follows used t ∧
        f = Failure.foundAt .unexpectedToken (t.offset + 1) t.shown ∧
        Viable (kinds used) ∧ ¬StaysViable (kinds used) t) ∧
    (f.cause ≠ .unexpectedToken →
      tokenize mode condition = .error f ∧
        Viable (kinds (lex mode condition.toList).tokens)) := by
  obtain ⟨used, here, htokens, hbegins, hblames⟩ := begins_of_ofLexed h
  cases hblames with
  | ending hhere hend =>
      obtain rfl := hhere
      refine ⟨fun hcause => absurd hcause (cause_ne_of_ending hend), fun _ => ⟨?_, ?_⟩⟩
      · exact map_eq_error.mpr hend
      · rw [htokens, List.append_nil]
        exact hbegins.viable
  | @unexpected t ht =>
      have hfollows := Lexed.follows_of_here htokens ht
      refine ⟨fun hcause => ⟨used, t, hfollows, rfl, hbegins.viable, ?_⟩, fun hne => absurd rfl hne⟩
      cases here with
      | nil =>
          obtain ⟨n, _, rfl⟩ := map_eq_ok.mp ht
          exact not_staysViable_endOfInput hlimit h hfollows
      | cons u here =>
          cases ht
          exact not_staysViable_token h hcause htokens rfl
  | tooDeep hdeep _ =>
      -- there are fewer tokens than characters, and the limit is beyond these
      have hcount : (lex mode condition.toList).tokens.length ≤ condition.toList.length :=
        length_tokens_lexAt mode 0 condition.toList
      rw [htokens, List.length_append, String.length_toList] at hcount
      omega

/-- After a complete comparison, a second comparison sign is one too many, and the quote that is
never closed behind it is not reported. -/
theorem parse_second_comparison_fails :
    ∃ f used t, "a < b < 'c".length < 20 ∧
      Expr.parse .everything 20 "a < b < 'c" = .error f ∧ f.cause = .unexpectedToken ∧
      (lex .everything "a < b < 'c".toList).Follows used t ∧
      f = Failure.foundAt .unexpectedToken (t.offset + 1) t.shown ∧
      Viable (kinds used) ∧ ¬StaysViable (kinds used) t := by
  have hfails : Expr.parse .everything 20 "a < b < 'c" =
      .error (Failure.foundAt .unexpectedToken 7 "<") := by rfl
  obtain ⟨used, t, hleftmost⟩ := (parse_fails_leftmost (by decide) hfails).1 rfl
  exact ⟨_, used, t, by decide, hfails, rfl, hleftmost⟩

end BuildCondition
