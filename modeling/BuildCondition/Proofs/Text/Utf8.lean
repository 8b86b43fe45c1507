import BuildCondition.Text.Utf8

/-!
# Reading UTF-8

The octets of a character, read one by one, give the character and leave nothing owed (§1). So
octets that begin with those of a text are read as the text and what follows it (§2).
-/

namespace BuildCondition.Text

/-! ## §1  One character -/

variable {done : List Char} {o : Owed} {b code count low high : Nat} {bs : List Nat}

theorem decodeOnto_begin (h : owedAfter b = some o) (hb : 0x80 ≤ b) :
    decodeOnto done none (b :: bs) = decodeOnto done (some o) bs := by
  have hstep : readOctet none b = ([], some o) := by
    show beginChar b = _
    rw [beginChar, if_neg (Nat.not_lt.mpr hb), h]
  rw [decodeOnto, hstep]
  rfl

theorem decodeOnto_continue (h : low ≤ b ∧ b ≤ high) :
    decodeOnto done (some ⟨code, count + 2, low, high⟩) (b :: bs) =
      decodeOnto done (some ⟨code * 64 + (b - 0x80), count + 1, 0x80, 0xBF⟩) bs := by
  have hstep : readOctet (some ⟨code, count + 2, low, high⟩) b =
      ([], some ⟨code * 64 + (b - 0x80), count + 1, 0x80, 0xBF⟩) := by
    show continueChar _ b = _
    rw [continueChar, if_pos h]
    rfl
  rw [decodeOnto, hstep]
  rfl

theorem decodeOnto_last (h : low ≤ b ∧ b ≤ high) :
    decodeOnto done (some ⟨code, 1, low, high⟩) (b :: bs) =
      decodeOnto (Char.ofNat (code * 64 + (b - 0x80)) :: done) none bs := by
  have hstep : readOctet (some ⟨code, 1, low, high⟩) b =
      ([Char.ofNat (code * 64 + (b - 0x80))], none) := by
    show continueChar _ b = _
    rw [continueChar, if_pos h]
    rfl
  rw [decodeOnto, hstep]
  rfl

theorem owedAfter_two (h : 0xC2 ≤ b ∧ b ≤ 0xDF) :
    owedAfter b = some ⟨b - 0xC0, 1, 0x80, 0xBF⟩ :=
  if_pos h

/-- The first octet of three leaves out what would be overlong, and the surrogates. -/
theorem owedAfter_three (h : 0xE0 ≤ b ∧ b ≤ 0xEF) :
    owedAfter b = some ⟨b - 0xE0, 2, if b = 0xE0 then 0xA0 else 0x80,
      if b = 0xED then 0x9F else 0xBF⟩ := by
  unfold owedAfter
  rw [if_neg (by omega)]
  by_cases hfirst : b = 0xE0
  · rw [if_pos hfirst, if_pos hfirst, if_neg (by omega), hfirst]
  · rw [if_neg hfirst, if_neg hfirst]
    by_cases hsurrogate : b = 0xED
    · rw [if_pos hsurrogate, if_pos hsurrogate, hsurrogate]
    · rw [if_neg hsurrogate, if_neg hsurrogate, if_pos (by omega)]

/-- The first octet of four leaves out what would be overlong, and what is no code. -/
theorem owedAfter_four (h : 0xF0 ≤ b ∧ b ≤ 0xF4) :
    owedAfter b = some ⟨b - 0xF0, 3, if b = 0xF0 then 0x90 else 0x80,
      if b = 0xF4 then 0x8F else 0xBF⟩ := by
  unfold owedAfter
  rw [if_neg (by omega), if_neg (by omega), if_neg (by omega), if_neg (by omega)]
  by_cases hfirst : b = 0xF0
  · rw [if_pos hfirst, if_pos hfirst, if_neg (by omega), hfirst]
  · rw [if_neg hfirst, if_neg hfirst]
    by_cases hlast : b = 0xF4
    · rw [if_neg (by omega), if_pos hlast, if_pos hlast, hlast]
    · rw [if_pos (by omega), if_neg hlast]

/-- The codes of characters leave out the surrogates. -/
theorem code_cases (c : Char) : c.toNat < 0xD800 ∨ 0xDFFF < c.toNat ∧ c.toNat < 0x110000 :=
  c.valid

theorem decodeOnto_utf8 (done : List Char) (c : Char) (bs : List Nat) :
    decodeOnto done none (utf8 c ++ bs) = decodeOnto (c :: done) none bs := by
  have hchar : Char.ofNat c.toNat = c := Char.ofNat_toNat c
  have hcode := code_cases c
  unfold utf8
  generalize c.toNat = n at hchar hcode
  by_cases hone : n < 0x80
  · have hstep : readOctet none n = ([c], none) := by
      show beginChar n = _
      rw [beginChar, if_pos hone, hchar]
    simp only [if_pos hone, List.cons_append, List.nil_append]
    rw [decodeOnto, hstep]
    rfl
  · by_cases htwo : n < 0x800
    · have hread : (0xC0 + n / 64 - 0xC0) * 64 + (0x80 + n % 64 - 0x80) = n := by omega
      simp only [if_neg hone, if_pos htwo, List.cons_append, List.nil_append]
      rw [decodeOnto_begin (owedAfter_two (by omega)) (by omega),
        decodeOnto_last (by omega), hread, hchar]
    · by_cases hthree : n < 0x10000
      · have hread : ((0xE0 + n / 4096 - 0xE0) * 64 + (0x80 + n / 64 % 64 - 0x80)) * 64 +
            (0x80 + n % 64 - 0x80) = n := by omega
        simp only [if_neg hone, if_neg htwo, if_pos hthree, List.cons_append, List.nil_append]
        rw [decodeOnto_begin (owedAfter_three (by omega)) (by omega),
          decodeOnto_continue (by split <;> split <;> omega),
          decodeOnto_last (by omega), hread, hchar]
      · have hread : (((0xF0 + n / 262144 - 0xF0) * 64 + (0x80 + n / 4096 % 64 - 0x80)) * 64 +
            (0x80 + n / 64 % 64 - 0x80)) * 64 + (0x80 + n % 64 - 0x80) = n := by omega
        simp only [if_neg hone, if_neg htwo, if_neg hthree, List.cons_append, List.nil_append]
        rw [decodeOnto_begin (owedAfter_four (by omega)) (by omega),
          decodeOnto_continue (by split <;> split <;> omega),
          decodeOnto_continue (by omega),
          decodeOnto_last (by omega), hread, hchar]

/-! ## §2  Texts -/

theorem decodeOnto_done (done : List Char) (owed : Option Owed) (bs : List Nat) :
    decodeOnto done owed bs = done.reverse ++ decodeOnto [] owed bs := by
  induction bs generalizing done owed with
  | nil => cases owed <;> simp [decodeOnto]
  | cons b bs ih =>
      simp only [decodeOnto]
      rw [ih ((readOctet owed b).1.reverseAux done), ih ((readOctet owed b).1.reverseAux [])]
      simp [List.reverseAux_eq]

/-- **A text is read back from its octets**, whatever octets follow. -/
theorem decodeUtf8_append (cs : List Char) (bs : List Nat) :
    decodeUtf8 (cs.flatMap utf8 ++ bs) = cs ++ decodeUtf8 bs := by
  induction cs with
  | nil => rfl
  | cons c cs ih =>
      rw [List.flatMap_cons, List.append_assoc, decodeUtf8, decodeOnto_utf8, decodeOnto_done]
      show [c] ++ decodeUtf8 (cs.flatMap utf8 ++ bs) = _
      rw [ih]
      rfl

end BuildCondition.Text
