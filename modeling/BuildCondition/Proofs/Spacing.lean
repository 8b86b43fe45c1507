import BuildCondition.Proofs.Expr.Relocation
import BuildCondition.Proofs.Grammar.Acceptance

/-!
# Blanks between tokens

Whoever formats a condition puts blanks between its tokens, or takes them away. Blanks that are put
in front of a token, or at the end, change nothing but offsets. They cannot be taken for a part of
the lexeme before them, nor do they hide from it what it looks ahead for (§1), so that all tokens are
found again (§2), and are put together as before (§3).
-/

namespace BuildCondition

open BuildCondition.Text

/-! ## §1  Blanks behind a lexeme -/

section Blanks

variable {c : Char} {w before behind : List Char}

/-- No blank occurs in names, words or numerals. -/
theorem not_in_names_of_isBlank (h : isBlank c = true) :
    Lexeme.clashesWithNumeral c = false ∧ isWordChar c = false :=
  forall_inRanges (P := fun c => Lexeme.clashesWithNumeral c = false ∧ isWordChar c = false)
    (by decide +kernel) h

theorem stops_insert {p : Char → Bool} (h : Stops p (before ++ behind))
    (hw : ∀ c ∈ w, p c = false) : Stops p (before ++ (w ++ behind)) := by
  cases before with
  | cons c before => exact stops_cons h.head
  | nil =>
      cases w with
      | nil => exact h
      | cons d w => exact stops_cons (hw d List.mem_cons_self)

/-- Whoever looks past blanks sees the same with more blanks. -/
theorem head?_trimStart_insert (hw : ∀ c ∈ w, isBlank c = true) :
    (trimStart (before ++ (w ++ behind))).head? = (trimStart (before ++ behind)).head? := by
  by_cases hnil : (before.dropWhile isBlank).isEmpty = true
  · rw [trimStart, List.dropWhile_append, if_pos hnil, List.dropWhile_append_of_pos hw,
      trimStart, List.dropWhile_append, if_pos hnil]
  · rw [trimStart, List.dropWhile_append, if_neg hnil, trimStart, List.dropWhile_append,
      if_neg hnil]
    obtain ⟨d, more, hcons⟩ := List.exists_cons_of_ne_nil (mt List.isEmpty_iff.mpr hnil)
    rw [hcons]
    rfl

/-- Blanks may be put anywhere behind a lexeme. -/
theorem Lexeme.EndsBefore.insert {l : Lexeme} (h : l.EndsBefore (before ++ behind))
    (hw : ∀ c ∈ w, isBlank c = true) : l.EndsBefore (before ++ (w ++ behind)) := by
  have hnumeral : ∀ c ∈ w, clashesWithNumeral c = false := fun c hc =>
    (not_in_names_of_isBlank (hw c hc)).1
  have hword : ∀ c ∈ w, isWordChar c = false := fun c hc => (not_in_names_of_isBlank (hw c hc)).2
  have hequals : (before ++ behind).head? ≠ some '=' →
      (before ++ (w ++ behind)).head? ≠ some '=' := by
    intro hne
    cases before with
    | cons c before => exact hne
    | nil =>
        cases w with
        | nil => exact hne
        | cons d w =>
            intro hd
            have hblank := hw d List.mem_cons_self
            rw [Option.some.inj hd] at hblank
            exact absurd hblank (by decide)
  cases l with
  | numeral => exact stops_insert h hnumeral
  | word => exact ⟨stops_insert h.1 hword, by rw [head?_trimStart_insert hw]; exact h.2⟩
  | functionName => exact ⟨stops_insert h.1 hword, by rw [head?_trimStart_insert hw]; exact h.2⟩
  | connective => exact stops_insert h hword
  | not => exact hequals h
  | comparison op =>
      cases op with
      | less | greater => exact hequals h
      | equal | notEqual | lessOrEqual | greaterOrEqual => trivial
  | quoted | reference | leftParen | rightParen | comma => trivial

end Blanks

/-! ## §2  Tokens -/

namespace Lexed

/-- A token starts behind `n` characters, or the text ends there. -/
def StartsAt (l : Lexed) (n : Nat) : Prop :=
  (∃ t ∈ l.tokens, t.offset = n) ∨ l.ending = .ok n

theorem relocate_behind (f : Nat → Nat) (ts : List Token) (l : Lexed) :
    (l.behind ts).relocate f = (l.relocate f).behind (ts.map (Token.relocate f)) := by
  rw [behind, behind, relocate, relocate, List.map_append]

theorem startsAt_behind {l : Lexed} {ts : List Token} {n : Nat} (hts : ∀ t ∈ ts, t.offset ≠ n)
    (h : (l.behind ts).StartsAt n) : l.StartsAt n := by
  rcases h with ⟨t, ht, hn⟩ | hend
  · rcases List.mem_append.mp ht with ht | ht
    · exact absurd hn (hts t ht)
    · exact .inl ⟨t, ht, hn⟩
  · exact .inr hend

end Lexed

section Cutting

variable {mode : Mode} {position k : Nat} {cs w : List Char}

theorem lexAt_blanks (hw : ∀ c ∈ w, isBlank c = true) :
    lexAt mode position (w ++ cs) = lexAt mode (position + w.length) cs := by
  induction w generalizing position with
  | nil => rfl
  | cons c w ih =>
      rw [List.forall_mem_cons] at hw
      rw [List.cons_append, lexAt_blank hw.1, ih hw.2, List.length_cons, Nat.add_assoc,
        Nat.add_comm 1]

/-- A text is cut in the same way wherever it stands. -/
theorem lexAt_relocate {f : Nat → Nat} {m : Nat} (hf : ∀ n, position ≤ n → f n = n + m) :
    lexAt mode (position + m) cs = (lexAt mode position cs).relocate f := by
  induction cs using pieceInduction mode generalizing position with
  | nil =>
      show Lexed.mk [] (.ok (position + m)) = Lexed.mk [] (.ok (f position))
      rw [hf position (Nat.le_refl _)]
  | blank c cs hblank ih =>
      rw [lexAt_blank hblank, lexAt_blank hblank, Nat.add_right_comm]
      exact ih fun n hn => hf n (by omega)
  | lexeme src l rest hsrc hrest ih =>
      have hrest' : lexAt mode (position + src.length + m) rest =
          (lexAt mode (position + src.length) rest).relocate f :=
        ih fun n hn => hf n (by omega)
      rw [lexAt_lexeme hsrc hrest, lexAt_lexeme hsrc hrest, Lexed.relocate_behind,
        Nat.add_right_comm, hrest']
      show _ = Lexed.behind [⟨l, f position⟩] _
      rw [hf position (Nat.le_refl _)]
  | fault c cs fault hblank hread =>
      rw [lexAt_fault hblank hread, lexAt_fault hblank hread]
      have hmoved : fault.failure (position + m) = (fault.failure position).relocate f := by
        obtain ⟨cause, found, ahead, consumed⟩ := fault
        have hplace : position + m + ahead + 1 = f (position + ahead) + 1 := by
          rw [hf (position + ahead) (by omega)]
          omega
        cases found with
        | none => exact congrArg (Failure.bareAt cause) hplace
        | some text => exact congrArg (Failure.foundAt cause · text) hplace
      rw [hmoved]
      rfl

theorem le_of_startsAt {n : Nat} (h : (lexAt mode position cs).StartsAt n) : position ≤ n := by
  rcases h with ⟨t, ht, hoffset⟩ | hend
  · rw [← hoffset]
    exact (offset_of_mem_lexAt ht).1
  · rw [ending_lexAt hend]
    omega

/-- Behind the place of a lexeme, nothing starts before its end. -/
theorem startsAt_of_lexeme {src rest : List Char} {l : Lexeme} {n : Nat}
    (hsrc : Lexeme.Spells mode src l) (hrest : l.EndsBefore rest) (hn : position < n)
    (h : (lexAt mode position (src ++ rest)).StartsAt n) :
    (lexAt mode (position + src.length) rest).StartsAt n := by
  rw [lexAt_lexeme hsrc hrest] at h
  refine Lexed.startsAt_behind (fun t ht => ?_) h
  rw [List.mem_singleton.mp ht]
  exact Nat.ne_of_lt hn

theorem offset_lt_of_relocate {ts : List Token} (m : Nat) (hts : ∀ t ∈ ts, t.offset < k) :
    ∀ t ∈ ts.map (Token.relocate (m + ·)), t.offset < m + k := by
  intro t ht
  obtain ⟨u, hu, rfl⟩ := List.mem_map.mp ht
  exact Nat.add_lt_add_left (hts u hu) m

/-- What stands before a token is cut in the same way if blanks are put in between. -/
theorem cutBefore_of_startsAt (h : (lexAt mode position cs).StartsAt (position + k)) :
    k ≤ cs.length ∧ ∃ ts, (∀ t ∈ ts, t.offset < k) ∧ ∀ w, (∀ c ∈ w, isBlank c = true) →
      CutBefore mode (w ++ cs.drop k) (cs.take k) ts := by
  induction cs using pieceInduction mode generalizing position k with
  | nil =>
      rcases h with ⟨t, ht, _⟩ | hend
      · cases ht
      · have hk : position = position + k := Except.ok.inj hend
        obtain rfl : k = 0 := by omega
        exact ⟨Nat.le_refl 0, [], List.forall_mem_nil _, fun w _ => .nil⟩
  | blank c cs hblank ih =>
      rw [lexAt_blank hblank] at h
      obtain ⟨j, hj⟩ := Nat.exists_eq_add_of_le (le_of_startsAt h)
      obtain rfl : k = 1 + j := by omega
      rw [hj] at h
      obtain ⟨hlength, ts, hts, hcut⟩ := ih h
      refine ⟨by rw [List.length_cons]; omega, ts.map (Token.relocate (1 + ·)),
        offset_lt_of_relocate 1 hts, fun w hw => ?_⟩
      rw [Nat.add_comm 1 j]
      exact (CutBefore.blank hblank).append (hcut w hw)
  | lexeme src l rest hsrc hrest ih =>
      by_cases hk : k = 0
      · subst hk
        exact ⟨Nat.zero_le _, [], List.forall_mem_nil _, fun w _ => .nil⟩
      · -- only the lexeme itself starts here, so the place lies behind it
        have hmore := startsAt_of_lexeme hsrc hrest (by omega) h
        obtain ⟨j, hj⟩ := Nat.exists_eq_add_of_le (le_of_startsAt hmore)
        obtain rfl : k = src.length + j := by omega
        rw [hj] at hmore
        obtain ⟨hlength, ts, hts, hcut⟩ := ih hmore
        refine ⟨by rw [List.length_append]; omega,
          ⟨l, 0⟩ :: ts.map (Token.relocate (src.length + ·)), ?_, fun w hw => ?_⟩
        · rw [List.forall_mem_cons]
          exact ⟨Nat.pos_of_ne_zero hk, offset_lt_of_relocate _ hts⟩
        · have hends : l.EndsBefore (rest.take j ++ (w ++ rest.drop j)) :=
            Lexeme.EndsBefore.insert (by rw [List.take_append_drop]; exact hrest) hw
          rw [List.take_length_add_append, List.drop_length_add_append]
          exact (CutBefore.lexeme hsrc hends).append (hcut w hw)
  | fault c cs fault hblank hread =>
      rw [lexAt_fault hblank hread] at h
      rcases h with ⟨t, ht, _⟩ | hend
      · cases ht
      · cases hend

/-- Where an offset is when `m` characters have been put in behind the first `k`. -/
def pushed (k m n : Nat) : Nat :=
  if n < k then n else n + m

/-- Blanks in front of a token push it and all that follows. -/
theorem lex_insert (h : (lex mode cs).StartsAt k) (hw : ∀ c ∈ w, isBlank c = true) :
    lex mode (cs.take k ++ (w ++ cs.drop k)) =
      (lex mode cs).relocate (pushed k w.length) := by
  have hstart : (lexAt mode 0 cs).StartsAt (0 + k) := by
    rw [Nat.zero_add]
    exact h
  obtain ⟨hk, ts, hts, hcut⟩ := cutBefore_of_startsAt hstart
  have hlength : (cs.take k).length = k := by
    rw [List.length_take, Nat.min_eq_left hk]
  have hsame : ts.map (Token.relocate (0 + ·)) = ts := by
    simp
  have hplain : lex mode cs = (lexAt mode k (cs.drop k)).behind ts := by
    have hcut' := hcut [] (List.forall_mem_nil _) 0
    rw [List.nil_append, List.take_append_drop, hlength, hsame, Nat.zero_add] at hcut'
    exact hcut'
  have hspaced : lex mode (cs.take k ++ (w ++ cs.drop k)) =
      (lexAt mode (k + w.length) (cs.drop k)).behind ts := by
    have hcut' := hcut w hw 0
    rw [hlength, hsame, Nat.zero_add, lexAt_blanks hw] at hcut'
    exact hcut'
  have hpushed : ∀ n, k ≤ n → pushed k w.length n = n + w.length :=
    fun n hn => if_neg (by omega)
  have hkept : ts.map (Token.relocate (pushed k w.length)) = ts := by
    refine (List.map_congr_left fun t ht => ?_).trans (List.map_id ts)
    rw [Token.relocate, pushed, if_pos (hts t ht)]
    rfl
  rw [hspaced, hplain, Lexed.relocate_behind, hkept, lexAt_relocate hpushed]

end Cutting

/-! ## §3  Conditions -/

/-- The condition with `w` behind its first `k` characters. -/
def insertAt (condition : String) (k : Nat) (w : String) : String :=
  .ofList (condition.toList.take k ++ (w.toList ++ condition.toList.drop k))

section Conditions

variable {mode : Mode} {condition w : String} {ts : List Terminal} {i : Nat}

/-- What a condition is made of stands in the order of its offsets, its end behind all tokens. -/
theorem sorted_tokenize (h : tokenize mode condition = .ok ts) :
    ts.Pairwise fun t u => t.offset < u.offset := by
  obtain ⟨n, hn, rfl⟩ := map_eq_ok.mp h
  refine List.pairwise_append.mpr ⟨?_, List.pairwise_singleton _ _, fun t ht u hu => ?_⟩
  · exact List.pairwise_map.mpr (sorted_lexAt mode 0 condition.toList)
  · obtain ⟨t', ht', rfl⟩ := List.mem_map.mp ht
    rw [List.mem_singleton.mp hu, ending_lexAt hn]
    exact (offset_of_mem_lexAt ht').2

/-- In a text that is cut to its end, each of its tokens starts somewhere, and so does the end. -/
theorem startsAt_of_mem_tokenize (h : tokenize mode condition = .ok ts) {t : Terminal}
    (ht : t ∈ ts) : (lex mode condition.toList).StartsAt t.offset := by
  obtain ⟨n, hn, rfl⟩ := map_eq_ok.mp h
  rcases List.mem_append.mp ht with ht | ht
  · obtain ⟨t', ht', rfl⟩ := List.mem_map.mp ht
    exact .inl ⟨t', ht', rfl⟩
  · rw [List.mem_singleton.mp ht]
    exact .inr hn

/-- Around a token stand those of a smaller offset, and it with those of no smaller offset. -/
theorem offsets_around (h : ts.Pairwise fun t u => t.offset < u.offset) (hi : i < ts.length) :
    (∀ t ∈ ts.take i, t.offset < ts[i].offset) ∧ ∀ t ∈ ts.drop i, ts[i].offset ≤ t.offset := by
  rw [List.pairwise_iff_getElem] at h
  constructor
  · intro t ht
    obtain ⟨j, hj, rfl⟩ := List.mem_take_iff_getElem.mp ht
    exact h j i (by omega) hi (by omega)
  · intro t ht
    obtain ⟨j, hj, rfl⟩ := List.mem_drop_iff_getElem.mp ht
    rcases Nat.eq_zero_or_pos j with rfl | hpos
    · exact Nat.le_refl _
    · exact Nat.le_of_lt (h i (i + j) hi (by omega) (by omega))

/-- To push what has no smaller offset than `n` is to move the one part and to leave the other. -/
theorem map_pushed {before behind : List Terminal} {n : Nat}
    (hbefore : ∀ t ∈ before, t.offset < n) (hbehind : ∀ t ∈ behind, n ≤ t.offset) (m : Nat) :
    (before ++ behind).map (Terminal.relocate (pushed n m)) =
      before ++ behind.map (Terminal.relocate (· + m)) := by
  have hrelocate : ∀ t : Terminal, ∀ f g : Nat → Nat, f t.offset = g t.offset →
      t.relocate f = t.relocate g := by
    intro t f g hfg
    cases t with
    | token t => exact congrArg (fun n => Terminal.token ⟨t.lexeme, n⟩) hfg
    | endOfInput n => exact congrArg Terminal.endOfInput hfg
  rw [List.map_append]
  congr 1
  · refine (List.map_congr_left fun t ht => ?_).trans (List.map_id before)
    have hkept : pushed n m t.offset = id t.offset := if_pos (hbefore t ht)
    rw [hrelocate t _ id hkept]
    cases t <;> rfl
  · exact List.map_congr_left fun t ht =>
      hrelocate t _ _ (if_neg (Nat.not_lt.mpr (hbehind t ht)))

end Conditions

/-- **Blanks between tokens are insignificant.** With blanks put in front of a token, or at the
end, a condition is cut into the same tokens, of which this one and those behind it are pushed; and
it is parsed, under any limit, into the same expression, with offsets pushed, or fails with the same
failure, pushed likewise. -/
theorem tokenize_insertAt {mode : Mode} {condition w : String} {ts : List Terminal} {i : Nat}
    (h : tokenize mode condition = .ok ts) (hi : i < ts.length)
    (hw : ∀ c ∈ w.toList, isBlank c = true) :
    tokenize mode (insertAt condition ts[i].offset w) =
        .ok (ts.take i ++ (ts.drop i).map (Terminal.relocate (· + w.length))) ∧
      ∀ limit, Expr.parse mode limit (insertAt condition ts[i].offset w) =
        ((Expr.parse mode limit condition).map
          (Expr.relocate (pushed ts[i].offset w.length))).mapError
            (Failure.relocate (pushed ts[i].offset w.length)) := by
  have hlex : lex mode (insertAt condition ts[i].offset w).toList =
      (lex mode condition.toList).relocate (pushed ts[i].offset w.length) := by
    rw [insertAt, String.toList_ofList, ← String.length_toList]
    exact lex_insert (startsAt_of_mem_tokenize h (List.getElem_mem hi)) hw
  constructor
  · obtain ⟨hbefore, hbehind⟩ := offsets_around (sorted_tokenize h) hi
    have htokenize : tokenize mode (insertAt condition ts[i].offset w) =
        .ok (ts.map (Terminal.relocate (pushed ts[i].offset w.length))) := by
      rw [tokenize, hlex]
      generalize pushed ts[i].offset w.length = f
      obtain ⟨n, hn, rfl⟩ := map_eq_ok.mp h
      rw [Lexed.terminals, Lexed.relocate, hn, List.map_append, List.map_map, List.map_map]
      rfl
    rw [htokenize, ← map_pushed hbefore hbehind, List.take_append_drop]
  · intro limit
    rw [Expr.parse, hlex, Expr.ofLexed_relocate, Expr.parse]

/-- A line break in front of the parenthesis behind a name leaves it the name of a function. -/
theorem tokenize_insertAt_functionName :
    tokenize .everything (insertAt "F( 0x1F )" 1 "\r\n") =
      .ok [.token ⟨.functionName "F", 0⟩, .token ⟨.leftParen, 3⟩, .token ⟨.numeral "0x1F", 5⟩,
        .token ⟨.rightParen, 10⟩, .endOfInput 11] := by
  have htokens : tokenize .everything "F( 0x1F )" =
      .ok [.token ⟨.functionName "F", 0⟩, .token ⟨.leftParen, 1⟩, .token ⟨.numeral "0x1F", 3⟩,
        .token ⟨.rightParen, 8⟩, .endOfInput 9] := by rfl
  have hblank : ∀ c ∈ "\r\n".toList, isBlank c = true := List.all_eq_true.mp (by decide)
  exact (tokenize_insertAt (i := 1) htokens (by decide) hblank).1

end BuildCondition
