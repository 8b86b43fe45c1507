import BuildCondition.Proofs.Except
import BuildCondition.Proofs.Lexeme.Spelling

/-!
# Where faults lie

A lexeme that cannot be read is at fault at its start, at some character behind it, or at the end of
the text, and never beyond that. Most faults are told at a place that has been counted on the way:
the last blank of a property reference (§1), the sigil of a reference inside a quoted text (§2), the
first character that is no part of a numeral (§3). For all lexemes the bound is the same, but only
numerals give up characters that they have taken (§4).
-/

namespace BuildCondition.Lexeme

open BuildCondition.Text

variable {mode : Mode} {c : Char} {cs : List Char} {k : Nat} {fault : Fault}

/-- A fault at most `n` characters ahead that gives no characters up. -/
def FoundWithin (n : Nat) (fault : Fault) : Prop :=
  fault.ahead ≤ n ∧ fault.consumed = 0

theorem foundWithin_start {n : Nat} (cause : Cause) (found : Option String) :
    FoundWithin n ⟨cause, found, 0, 0⟩ :=
  ⟨Nat.zero_le n, rfl⟩

theorem FoundWithin.mono {m n : Nat} (h : FoundWithin m fault) (hn : m ≤ n) :
    FoundWithin n fault :=
  ⟨Nat.le_trans h.1 hn, h.2⟩

/-! ## §1  Properties -/

/-- The blank of a level, if it has one, stands before place `k`. -/
def Level.BlankBefore (level : Level) (k : Nat) : Prop :=
  ∀ b blank, level.blank = some (b, blank) → b < k

namespace Level

theorem blankBefore_fresh (k : Nat) : fresh.BlankBefore k := by
  intro b blank h
  cases h

theorem BlankBefore.mono {level : Level} {m : Nat} (h : level.BlankBefore k) (hm : k ≤ m) :
    level.BlankBefore m :=
  fun b blank hb => Nat.lt_of_lt_of_le (h b blank hb) hm

theorem BlankBefore.note {level : Level} (h : level.BlankBefore k) (c : Char) :
    (level.note k c).BlankBefore (k + 1) := by
  intro b blank hb
  unfold Level.note at hb
  split at hb
  · exact Nat.lt_succ_of_lt (h b blank hb)
  · split at hb
    · exact Nat.lt_succ_of_lt (h b blank hb)
    · split at hb
      · cases hb
        exact Nat.lt_succ_self k
      · split at hb
        · exact Nat.lt_succ_of_lt (h b blank hb)
        · exact Nat.lt_succ_of_lt (h b blank hb)

theorem blank_of_strayBlank? {level : Level} {b : Nat × Char} (h : level.strayBlank? = some b) :
    level.blank = some b := by
  unfold strayBlank? at h
  split at h
  · cases h
  · exact h

end Level

/-- A blank that may not be there is one of those passed by. -/
theorem lt_of_propertyEnd_eq_stray {outer : List Level} {level : Level} {b : Nat}
    (h : propertyEnd outer level k cs = .stray b c) (hlevel : level.BlankBefore k)
    (houter : ∀ l ∈ outer, l.BlankBefore k) : b < k + cs.length := by
  induction cs generalizing outer level k with
  | nil => cases h
  | cons d cs ih =>
      have hlater : ∀ l ∈ outer, l.BlankBefore (k + 1) :=
        fun l hl => (houter l hl).mono (Nat.le_succ k)
      rw [List.length_cons]
      by_cases hclose : d = ')' ∧ level.parens ≤ 1
      · obtain ⟨rfl, hparens⟩ := hclose
        rw [propertyEnd_close hparens] at h
        cases hblank : level.strayBlank? with
        | some found =>
            obtain ⟨place, blank⟩ := found
            have := hlevel place blank (Level.blank_of_strayBlank? hblank)
            rw [hblank] at h
            cases h
            omega
        | none =>
            rw [hblank] at h
            cases outer with
            | nil => cases h
            | cons around outer =>
                obtain ⟨haround, houter⟩ := List.forall_mem_cons.mp hlater
                have := ih h haround houter
                omega
      · by_cases hnest : d = '$' ∧ cs.head? = some '('
        · rw [propertyEnd_nest hclose hnest] at h
          have := ih h (Level.blankBefore_fresh _) (List.forall_mem_cons.mpr
            ⟨hlevel.note d, hlater⟩)
          omega
        · rw [propertyEnd_note hclose hnest] at h
          have := ih h (hlevel.note d) hlater
          omega

theorem foundWithin_of_readProperty (h : readProperty cs = .error fault) :
    FoundWithin cs.length fault := by
  unfold readProperty at h
  split at h
  · split at h
    · cases h
    · rename_i hstray
      cases h
      have := lt_of_propertyEnd_eq_stray hstray (Level.blankBefore_fresh 1) (List.forall_mem_nil _)
      refine ⟨?_, rfl⟩
      dsimp only
      omega
    · cases h
      exact foundWithin_start _ _
  · cases h
    exact foundWithin_start _ _

/-! ## §2  Other references and quoted texts -/

theorem foundWithin_of_readItems (h : readItems mode cs = .error fault) :
    FoundWithin cs.length fault := by
  unfold readItems at h
  split at h
  · cases h
    exact foundWithin_start _ _
  · split at h
    · split at h
      · cases h
      · split at h <;> cases h <;> exact foundWithin_start _ _
    · cases h
      exact foundWithin_start _ _

theorem foundWithin_of_readMetadata (h : readMetadata mode cs = .error fault) :
    FoundWithin cs.length fault := by
  unfold readMetadata at h
  split at h
  · split at h
    · cases h
      exact foundWithin_start _ _
    · split at h <;> cases h
      exact foundWithin_start _ _
  · cases h
    exact foundWithin_start _ _

/-- A quoted text is not closed, or refused for a reference inside it. -/
theorem quoteEnd_eq_error {zone : Zone} (h : quoteEnd mode zone k cs = .error fault) :
    fault = ⟨.stringNotClosed, none, 0, 0⟩ ∨
      mode = .propertiesOnly ∧
        ∃ cause j, j < cs.length ∧ fault = ⟨cause, none, k + j + 1, 0⟩ := by
  induction cs generalizing zone k with
  | nil =>
      cases h
      exact .inl rfl
  | cons c cs ih =>
      have hgoes : ∀ {zone}, quoteEnd mode zone (k + 1) cs = .error fault →
          fault = ⟨.stringNotClosed, none, 0, 0⟩ ∨ mode = .propertiesOnly ∧
            ∃ cause j, j < (c :: cs).length ∧ fault = ⟨cause, none, k + j + 1, 0⟩ := by
        intro zone h
        rcases ih h with hopen | ⟨hmode, cause, j, hj, hfault⟩
        · exact .inl hopen
        · refine .inr ⟨hmode, cause, j + 1, Nat.succ_lt_succ hj, ?_⟩
          rw [hfault, Nat.add_assoc k 1 j, Nat.add_comm 1 j]
      by_cases hzone : zone = .text
      · subst hzone
        by_cases hquote : c = '\''
        · subst hquote
          rw [quoteEnd_text_quote] at h
          cases h
        · by_cases hitems : c = '@' ∧ cs.head? = some '('
          · rw [quoteEnd_text_items hitems] at h
            split at h
            · rename_i hmode
              cases h
              exact .inr ⟨hmode, _, 0, Nat.succ_pos _, rfl⟩
            · exact hgoes h
          · by_cases hmetadata : c = '%' ∧ cs.head? = some '(' ∧ mode = .propertiesOnly
            · rw [quoteEnd_text_metadata hmetadata] at h
              cases h
              exact .inr ⟨hmetadata.2.2, _, 0, Nat.succ_pos _, rfl⟩
            · rw [quoteEnd_text_pass hquote hitems hmetadata] at h
              exact hgoes h
      · rw [quoteEnd_list hzone] at h
        exact hgoes h

theorem foundWithin_of_readQuoted (h : readQuoted mode cs = .error fault) :
    FoundWithin cs.length fault := by
  rcases quoteEnd_eq_error (map_eq_error.mp h) with rfl | ⟨_, cause, j, hj, rfl⟩
  · exact foundWithin_start _ _
  · refine ⟨?_, rfl⟩
    dsimp only
    omega

/-! ## §3  Numerals -/

/-- A fault at most as far ahead as characters are given up, of which there are some, but no more
than `n`. -/
def GivesUp (n : Nat) (fault : Fault) : Prop :=
  fault.ahead ≤ fault.consumed ∧ 0 < fault.consumed ∧ fault.consumed ≤ n

/-- What starts a numeral without digits in it is a sign or a point. -/
theorem signed_or_pointed (hstart : startsNumeral c = true)
    (hwhole : (unsigned (c :: cs)).takeWhile Char.isDigit = []) :
    0 < (signOf (c :: cs)).length + (pointOf (unsigned (c :: cs))).length := by
  simp only [startsNumeral, Bool.or_eq_true, beq_iff_eq] at hstart
  rcases hstart with ((hdigit | rfl) | rfl) | rfl
  · rw [unsigned, signOf_of_digit hdigit, List.length_nil, List.drop_zero,
      List.takeWhile_cons_of_pos hdigit] at hwhole
    cases hwhole
  · exact Nat.add_pos_left (Nat.succ_pos 0) _
  · exact Nat.add_pos_left (Nat.succ_pos 0) _
  · exact Nat.succ_pos 0

theorem givesUp_of_decimalNumeral (hstart : startsNumeral c = true)
    (h : decimalNumeral (c :: cs) = .error fault) : GivesUp (c :: cs).length fault := by
  unfold decimalNumeral at h
  simp only [] at h
  split at h
  · rename_i hnone
    rw [Bool.and_eq_true, List.isEmpty_iff, List.isEmpty_iff] at hnone
    have hwhole : (unsigned (c :: cs)).takeWhile Char.isDigit = [] := hnone.1
    -- without digits before the point, the point stands right behind the sign
    have hpoint : (unsigned (c :: cs)).dropWhile Char.isDigit = unsigned (c :: cs) := by
      have hsplit := List.takeWhile_append_dropWhile (p := Char.isDigit) (l := unsigned (c :: cs))
      rwa [hwhole, List.nil_append] at hsplit
    have hpos := signed_or_pointed hstart hwhole
    have hlength := congrArg List.length (eq_signOf_append (c :: cs))
    rw [List.length_append] at hlength
    have hfits := length_pointOf_le (unsigned (c :: cs))
    cases h
    show 0 ≤ _ ∧ 0 < _ + (pointOf ((unsigned (c :: cs)).dropWhile Char.isDigit)).length ∧
      _ + (pointOf ((unsigned (c :: cs)).dropWhile Char.isDigit)).length ≤ _
    rw [hpoint]
    omega
  · cases h

theorem givesUp_of_numeralChars (hstart : startsNumeral c = true)
    (h : numeralChars (c :: cs) = .error fault) : GivesUp (c :: cs).length fault := by
  by_cases hhex : StartsHex (c :: cs)
  · obtain ⟨x, d, more, heq, hx⟩ := hhex
    rw [heq] at h ⊢
    rw [numeralChars, if_pos hx, hexNumeral] at h
    split at h <;> cases h
    exact ⟨Nat.le_refl 2, Nat.succ_pos 1, Nat.succ_le_succ (Nat.succ_le_succ (Nat.zero_le _))⟩
  · rw [numeralChars_of_not_startsHex hhex] at h
    exact givesUp_of_decimalNumeral hstart h

theorem givesUp_of_readNumeral (hstart : startsNumeral c = true)
    (h : readNumeral (c :: cs) = .error fault) : GivesUp (c :: cs).length fault := by
  rcases bind_eq_error.mp h with h | ⟨chars, hchars, h⟩
  · exact givesUp_of_numeralChars hstart h
  · split at h
    · cases h
    · split at h <;> cases h
      obtain ⟨hne, rest, heq⟩ := exists_eq_append_of_numeralChars hchars
      refine ⟨Nat.le_refl _, List.length_pos_iff.mpr hne, ?_⟩
      rw [heq, List.length_append]
      exact Nat.le_add_right _ _

/-! ## §4  All lexemes -/

/-- A numeral gives up some of its characters, any other lexeme none. -/
theorem readLexeme_eq_error (h : readLexeme mode c cs = .error fault) :
    if startsNumeral c then GivesUp (c :: cs).length fault
    else FoundWithin (c :: cs).length fault := by
  by_cases hmark : c ∈ marks
  · have hbehind : FoundWithin cs.length fault → FoundWithin (c :: cs).length fault :=
      fun h => h.mono (Nat.le_succ _)
    simp only [marks, List.mem_cons, List.not_mem_nil, or_false] at hmark
    rcases hmark with rfl | rfl | rfl | rfl | rfl | rfl | rfl | rfl | rfl | rfl | rfl
    · cases h
    · cases h
    · cases h
    · exact hbehind (foundWithin_of_readProperty h)
    · exact hbehind (foundWithin_of_readItems h)
    · exact hbehind (foundWithin_of_readMetadata h)
    · exact hbehind (foundWithin_of_readQuoted h)
    · cases h
    · cases h
    · cases h
    · rw [readLexeme_equals] at h
      split at h <;> cases h
      exact ⟨Nat.succ_pos _, rfl⟩
  · rw [readLexeme_of_not_mark hmark] at h
    split
    · rename_i hstart
      rw [if_pos hstart] at h
      exact givesUp_of_readNumeral hstart h
    · rename_i hstart
      rw [if_neg hstart] at h
      split at h <;> cases h
      exact foundWithin_start _ _

/-- A fault lies in what is left of the text, or right at its end. -/
theorem ahead_le_of_readLexeme (h : readLexeme mode c cs = .error fault) :
    fault.ahead ≤ (c :: cs).length := by
  have herror := readLexeme_eq_error h
  split at herror
  · exact Nat.le_trans herror.1 herror.2.2
  · exact herror.1

end BuildCondition.Lexeme
