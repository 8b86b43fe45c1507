import BuildCondition.Token
import BuildCondition.Proofs.Lexeme.Spelling
import BuildCondition.Proofs.Relocation

/-!
# Cutting conditions into tokens

A condition is cut piece by piece. Each piece is a blank, or the spelling of a lexeme before
something that may follow it, and the first piece that is neither is where cutting fails (§1). Since
lexemes are read locally, a text is cut within a larger one as it is on its own, up to where it
starts (§2), in particular between parentheses (§3).
-/

namespace BuildCondition

open BuildCondition.Text

/-! ## §1  Piece by piece -/

namespace Lexed

/-- The same with some tokens in front. -/
def behind (ts : List Token) (l : Lexed) : Lexed :=
  ⟨ts ++ l.tokens, l.ending⟩

@[simp] theorem behind_behind (ts us : List Token) (l : Lexed) :
    (l.behind us).behind ts = l.behind (ts ++ us) := by
  rw [behind, behind, behind, List.append_assoc]

end Lexed

/-- The tokens of what stands behind `position` characters. -/
def lexAt (mode : Mode) (position : Nat) (cs : List Char) : Lexed :=
  lexFrom mode [] position 0 cs

section Pieces

variable {mode : Mode} {position : Nat} {c : Char} {cs src rest : List Char} {l : Lexeme}

theorem lexFrom_zero (done : List Token) :
    lexFrom mode done position 0 (c :: cs) =
      if isBlank c then lexFrom mode done (position + 1) 0 cs
      else
        match Lexeme.readLexeme mode c cs with
        | .ok l => lexFrom mode (⟨l, position⟩ :: done) (position + 1) (l.width - 1) cs
        | .error fault => ⟨done.reverse, .error (fault.failure position)⟩ := rfl

theorem lexFrom_done (done : List Token) (position covered : Nat) (cs : List Char) :
    lexFrom mode done position covered cs =
      (lexFrom mode [] position covered cs).behind done.reverse := by
  induction cs generalizing done position covered with
  | nil => simp [lexFrom, Lexed.behind]
  | cons c cs ih =>
      cases covered with
      | succ covered => exact ih done (position + 1) covered
      | zero =>
          rw [lexFrom_zero, lexFrom_zero]
          split
          · exact ih done (position + 1) 0
          · split
            · rename_i l _
              -- both sides have the new token in front of what is read from here on
              rw [ih (⟨l, position⟩ :: done), ih [⟨l, position⟩], Lexed.behind_behind,
                List.reverse_cons]
              rfl
            · simp [Lexed.behind]

theorem lexFrom_covered (done : List Token) (position : Nat) (src rest : List Char) :
    lexFrom mode done position src.length (src ++ rest) =
      lexFrom mode done (position + src.length) 0 rest := by
  induction src generalizing position with
  | nil => rfl
  | cons c src ih =>
      show lexFrom mode done (position + 1) src.length (src ++ rest) = _
      rw [ih, List.length_cons, Nat.add_assoc, Nat.add_comm 1]

theorem lexAt_nil : lexAt mode position [] = ⟨[], .ok position⟩ := rfl

theorem lexAt_blank (h : isBlank c = true) :
    lexAt mode position (c :: cs) = lexAt mode (position + 1) cs := by
  rw [lexAt, lexFrom_zero, if_pos h]
  rfl

theorem lexAt_read {after : List Char} (hblank : isBlank c = false)
    (hwidth : (c :: after).length = l.width)
    (hread : Lexeme.readLexeme mode c (after ++ rest) = .ok l) :
    lexAt mode position (c :: (after ++ rest)) =
      (lexAt mode (position + (c :: after).length) rest).behind [⟨l, position⟩] := by
  have hcovered : l.width - 1 = after.length := by
    rw [← hwidth, List.length_cons, Nat.add_sub_cancel]
  rw [lexAt, lexFrom_zero, if_neg (by rw [hblank]; decide), hread]
  simp only [hcovered]
  rw [lexFrom_covered, lexFrom_done, List.length_cons, Nat.add_assoc, Nat.add_comm 1]
  rfl

theorem lexAt_lexeme (h : Lexeme.Spells mode src l) (hrest : l.EndsBefore rest) :
    lexAt mode position (src ++ rest) =
      (lexAt mode (position + src.length) rest).behind [⟨l, position⟩] := by
  obtain ⟨hsrc, c, after, rfl, hblank, hread⟩ := h
  exact lexAt_read hblank hsrc.length_eq (hread rest hrest)

theorem lexAt_fault {fault : Fault} (hblank : isBlank c = false)
    (h : Lexeme.readLexeme mode c cs = .error fault) :
    lexAt mode position (c :: cs) = ⟨[], .error (fault.failure position)⟩ := by
  rw [lexAt, lexFrom_zero, if_neg (by rw [hblank]; decide), h]
  rfl

/-- What holds of a text for the rest behind each piece holds of every text. -/
theorem pieceInduction (mode : Mode) {motive : List Char → Prop} (nil : motive [])
    (blank : ∀ c cs, isBlank c = true → motive cs → motive (c :: cs))
    (lexeme : ∀ src l rest, Lexeme.Spells mode src l → l.EndsBefore rest → motive rest →
      motive (src ++ rest))
    (fault : ∀ c cs f, isBlank c = false → Lexeme.readLexeme mode c cs = .error f →
      motive (c :: cs)) (cs : List Char) : motive cs := by
  -- on the length, for a piece may be longer than a character
  suffices h : ∀ n cs, cs.length ≤ n → motive cs from h cs.length cs (Nat.le_refl _)
  intro n
  induction n with
  | zero =>
      intro cs hn
      rw [List.length_eq_zero_iff.mp (Nat.le_zero.mp hn)]
      exact nil
  | succ n ih =>
      intro cs hn
      cases cs with
      | nil => exact nil
      | cons c cs =>
          cases hblank : isBlank c with
          | true => exact blank c cs hblank (ih cs (Nat.le_of_succ_le_succ hn))
          | false =>
              cases hread : Lexeme.readLexeme mode c cs with
              | error f => exact fault c cs f hblank hread
              | ok l =>
                  obtain ⟨src, rest, heq, hsrc, hrest⟩ := Lexeme.spells_of_readLexeme hblank hread
                  rw [heq]
                  refine lexeme src l rest hsrc hrest (ih rest ?_)
                  obtain ⟨_, d, after, rfl, _, _⟩ := hsrc
                  rw [heq, List.length_append, List.length_cons] at hn
                  omega

/-- Cutting that succeeds ends where the text ends. -/
theorem ending_lexAt {n : Nat} (h : (lexAt mode position cs).ending = .ok n) :
    n = position + cs.length := by
  induction cs using pieceInduction mode generalizing position with
  | nil =>
      cases h
      rfl
  | blank c cs hblank ih =>
      rw [lexAt_blank hblank] at h
      rw [ih h, List.length_cons]
      omega
  | lexeme src l rest hsrc hrest ih =>
      rw [lexAt_lexeme hsrc hrest] at h
      rw [ih h, List.length_append]
      omega
  | fault c cs f hblank hread =>
      rw [lexAt_fault hblank hread] at h
      cases h

/-- Every token takes a character at least. -/
theorem length_tokens_lexAt (mode : Mode) (position : Nat) (cs : List Char) :
    (lexAt mode position cs).tokens.length ≤ cs.length := by
  induction cs using pieceInduction mode generalizing position with
  | nil => exact Nat.le_refl 0
  | blank c cs hblank ih =>
      rw [lexAt_blank hblank]
      exact Nat.le_succ_of_le (ih _)
  | lexeme src l rest hsrc hrest ih =>
      rw [lexAt_lexeme hsrc hrest]
      obtain ⟨_, d, after, rfl, _, _⟩ := hsrc
      have := ih (position + (d :: after).length)
      simp only [Lexed.behind, List.length_append, List.length_cons, List.length_nil] at this ⊢
      omega
  | fault c cs f hblank hread =>
      rw [lexAt_fault hblank hread]
      exact Nat.zero_le _

/-- Every token is spelled somewhere. -/
theorem spells_of_mem_lexAt {t : Token} (h : t ∈ (lexAt mode position cs).tokens) :
    ∃ src, Lexeme.Spells mode src t.lexeme := by
  induction cs using pieceInduction mode generalizing position with
  | nil => cases h
  | blank c cs hblank ih =>
      rw [lexAt_blank hblank] at h
      exact ih h
  | lexeme src l rest hsrc hrest ih =>
      rw [lexAt_lexeme hsrc hrest] at h
      rcases List.mem_cons.mp h with rfl | h
      · exact ⟨src, hsrc⟩
      · exact ih h
  | fault c cs f hblank hread =>
      rw [lexAt_fault hblank hread] at h
      cases h

/-- The first character of a token is one of the text. -/
theorem offset_of_mem_lexAt {t : Token} (h : t ∈ (lexAt mode position cs).tokens) :
    position ≤ t.offset ∧ t.offset < position + cs.length := by
  induction cs using pieceInduction mode generalizing position with
  | nil => cases h
  | blank c cs hblank ih =>
      rw [lexAt_blank hblank] at h
      have hoffset := ih h
      rw [List.length_cons]
      omega
  | lexeme src l rest hsrc hrest ih =>
      rw [lexAt_lexeme hsrc hrest] at h
      have hpos : 0 < src.length := by
        obtain ⟨_, d, after, rfl, _, _⟩ := hsrc
        exact Nat.succ_pos _
      rw [List.length_append]
      rcases List.mem_cons.mp h with rfl | h
      · dsimp only
        omega
      · have hoffset := ih h
        omega
  | fault c cs f hblank hread =>
      rw [lexAt_fault hblank hread] at h
      cases h

/-- Tokens stand in the order of their offsets. -/
theorem sorted_lexAt (mode : Mode) (position : Nat) (cs : List Char) :
    (lexAt mode position cs).tokens.Pairwise fun t u => t.offset < u.offset := by
  induction cs using pieceInduction mode generalizing position with
  | nil => exact .nil
  | blank c cs hblank ih =>
      rw [lexAt_blank hblank]
      exact ih (position + 1)
  | lexeme src l rest hsrc hrest ih =>
      rw [lexAt_lexeme hsrc hrest]
      refine .cons (fun u hu => ?_) (ih _)
      -- what is left starts behind the lexeme, which takes a character at least
      have hoffset := (offset_of_mem_lexAt hu).1
      obtain ⟨_, d, after, rfl, _, _⟩ := hsrc
      rw [List.length_cons] at hoffset
      dsimp only
      omega
  | fault c cs f hblank hread =>
      rw [lexAt_fault hblank hread]
      exact .nil

end Pieces

/-! ## §2  Pieces of a text -/

/-- Wherever `src` stands before `rest`, it is cut into `ts`, whose offsets count from its start. -/
def CutBefore (mode : Mode) (rest src : List Char) (ts : List Token) : Prop :=
  ∀ position, lexAt mode position (src ++ rest) =
    (lexAt mode (position + src.length) rest).behind (ts.map (Token.relocate (position + ·)))

namespace CutBefore

variable {mode : Mode} {rest src src' : List Char} {ts ts' : List Token} {l : Lexeme}

theorem nil : CutBefore mode rest [] [] :=
  fun _ => rfl

theorem blank {c : Char} (h : isBlank c = true) : CutBefore mode rest [c] [] :=
  fun _ => lexAt_blank h

theorem lexeme (h : Lexeme.Spells mode src l) (hrest : l.EndsBefore rest) :
    CutBefore mode rest src [⟨l, 0⟩] :=
  fun _ => lexAt_lexeme h hrest

theorem append (h : CutBefore mode (src' ++ rest) src ts) (h' : CutBefore mode rest src' ts') :
    CutBefore mode rest (src ++ src') (ts ++ ts'.map (Token.relocate (src.length + ·))) := by
  intro position
  rw [List.append_assoc, h, h', Lexed.behind_behind, List.length_append, Nat.add_assoc,
    List.map_append, List.map_map, Token.relocate_comp]
  simp only [Nat.add_assoc]

/-- A lexeme between two blanks. -/
theorem spaced (h : Lexeme.Spells mode src l) (hrest : l.EndsBefore (' ' :: rest)) :
    CutBefore mode rest (' ' :: (src ++ [' '])) [⟨l, 1⟩] := by
  have hblank : ∀ rest, CutBefore mode rest [' '] [] := fun _ => .blank (by decide)
  exact (hblank (src ++ [' '] ++ rest)).append ((lexeme h hrest).append (hblank rest))

/-- What stands in parentheses. -/
theorem group (h : CutBefore mode (')' :: rest) src ts) :
    CutBefore mode rest ('(' :: (src ++ [')']))
      (⟨.leftParen, 0⟩ ::
        (ts.map (Token.relocate (1 + ·)) ++ [⟨.rightParen, 1 + src.length⟩])) := by
  have hopen : CutBefore mode (src ++ [')'] ++ rest) ['('] [⟨.leftParen, 0⟩] :=
    .lexeme Lexeme.spells_leftParen trivial
  have hall := hopen.append (h.append (.lexeme Lexeme.spells_rightParen trivial))
  rw [List.map_append] at hall
  exact hall

/-- A text that is cut before nothing is cut as a whole. -/
theorem lex_eq (h : CutBefore mode [] src ts) : lex mode src = ⟨ts, .ok src.length⟩ := by
  have hlex := h 0
  rw [List.append_nil] at hlex
  rw [lex]
  show lexAt mode 0 src = _
  rw [hlex]
  simp [Lexed.behind, lexAt_nil]

end CutBefore

/-! ## §3  Between parentheses -/

theorem head?_trimStart_append_rightParen {rest more : List Char}
    (h : (trimStart rest).head? ≠ some '(') :
    (trimStart (rest ++ ')' :: more)).head? ≠ some '(' := by
  rw [trimStart] at h
  rw [trimStart, List.dropWhile_append]
  split
  · rw [List.dropWhile_cons_of_neg (by decide)]
    simp
  · rename_i hne
    obtain ⟨c, after, hcons⟩ := List.exists_cons_of_ne_nil (mt List.isEmpty_iff.mpr hne)
    rw [hcons] at h ⊢
    exact h

theorem head?_trimStart_append {rest more : List Char} {c : Char}
    (h : (trimStart rest).head? = some c) : (trimStart (rest ++ more)).head? = some c := by
  rw [trimStart] at h
  rw [trimStart, List.dropWhile_append]
  split
  · rename_i hnil
    rw [List.isEmpty_iff.mp hnil] at h
    cases h
  · rw [List.head?_append, h]
    rfl

theorem stops_append_rightParen {p : Char → Bool} {rest more : List Char} (h : Stops p rest)
    (hp : p ')' = false) : Stops p (rest ++ ')' :: more) := by
  cases rest with
  | nil => exact stops_cons hp
  | cons c rest => exact stops_cons h.head

/-- What may stand behind a lexeme at the end of a text may do so before a parenthesis. -/
theorem Lexeme.EndsBefore.append_rightParen {l : Lexeme} {rest : List Char} (h : l.EndsBefore rest)
    (more : List Char) : l.EndsBefore (rest ++ ')' :: more) := by
  have hhead : rest.head? ≠ some '=' → (rest ++ ')' :: more).head? ≠ some '=' := by
    intro hne
    cases rest with
    | nil => simp
    | cons c rest => exact hne
  cases l with
  | numeral => exact stops_append_rightParen h (by decide)
  | word => exact ⟨stops_append_rightParen h.1 (by decide), head?_trimStart_append_rightParen h.2⟩
  | functionName => exact ⟨stops_append_rightParen h.1 (by decide), head?_trimStart_append h.2⟩
  | connective => exact stops_append_rightParen h (by decide)
  | not => exact hhead h
  | comparison op =>
      cases op with
      | less | greater => exact hhead h
      | equal | notEqual | lessOrEqual | greaterOrEqual => trivial
  | quoted | reference | leftParen | rightParen | comma => trivial

theorem lexAt_append_rightParen {mode : Mode} {position n : Nat} {cs : List Char} (k : Nat)
    (h : (lexAt mode position cs).ending = .ok n) (more : List Char) :
    lexAt mode (k + position) (cs ++ ')' :: more) =
      (lexAt mode (k + position + cs.length) (')' :: more)).behind
        ((lexAt mode position cs).tokens.map (Token.relocate (k + ·))) := by
  induction cs using pieceInduction mode generalizing position with
  | nil => rfl
  | blank c cs hblank ih =>
      rw [lexAt_blank hblank] at h
      rw [List.cons_append, lexAt_blank hblank, lexAt_blank hblank, Nat.add_assoc k, ih h,
        List.length_cons]
      simp only [Nat.add_assoc, Nat.add_comm 1]
  | lexeme src l rest hsrc hrest ih =>
      rw [lexAt_lexeme hsrc hrest] at h
      rw [List.append_assoc, lexAt_lexeme hsrc (hrest.append_rightParen more),
        lexAt_lexeme hsrc hrest, Nat.add_assoc k, ih h, Lexed.behind_behind, List.length_append]
      simp only [Nat.add_assoc]
      rfl
  | fault c cs f hblank hread =>
      rw [lexAt_fault hblank hread] at h
      cases h

/-- **A condition is cut between parentheses as it is on its own.** -/
theorem cutBefore_rightParen {mode : Mode} {cs : List Char} {ts : List Token} {n : Nat}
    (h : lex mode cs = ⟨ts, .ok n⟩) (more : List Char) : CutBefore mode (')' :: more) cs ts := by
  intro position
  have hlex : lexAt mode 0 cs = ⟨ts, .ok n⟩ := h
  have happend := lexAt_append_rightParen position (congrArg Lexed.ending hlex) more
  rw [hlex] at happend
  exact happend

end BuildCondition
