import BuildCondition.Proofs.DottedText
import BuildCondition.Proofs.Quoting
import Mathlib.Data.List.TakeWhile

/-!
# Numerals that are numbers

There are two readers of numbers. One cuts numerals from a condition and keeps their texts, and the
other finds out which number a text is. A decimal numeral may be a dotted version with more than one
point, and a hexadecimal one may be too large for 64 bits. Apart from that, a text is cut into one
numeral exactly if it is a number: both readers accept the decimals of one grammar (§1) and the same
hexadecimal texts (§2), and so it is with the tokens of a condition (§3).
-/

namespace BuildCondition

open BuildCondition.Text

/-! ## §1  Decimals -/

/-- Decimals without a sign: digits, and if there is a point, it stands in front of them, between or
behind them. -/
inductive IsDecimal : List Char → Prop where
  | whole {ds : List Char} (hne : ds ≠ []) (hds : ∀ c ∈ ds, c.isDigit = true) : IsDecimal ds
  | pointed {ds es : List Char} (hne : ds ≠ [] ∨ es ≠ []) (hds : ∀ c ∈ ds, c.isDigit = true)
      (hes : ∀ c ∈ es, c.isDigit = true) : IsDecimal (ds ++ '.' :: es)

section Decimals

variable {cs ds es : List Char}

theorem point_not_mem_digits (h : ∀ c ∈ ds, c.isDigit = true) : '.' ∉ ds := by
  intro hpoint
  exact absurd (h '.' hpoint) (by decide)

theorem Value.withoutSign_eq_unsigned (cs : List Char) :
    Value.withoutSign cs = Lexeme.unsigned cs := by
  unfold Lexeme.unsigned Lexeme.signOf
  split
  · rfl
  · rfl
  · rename_i hplus hminus
    unfold Value.withoutSign
    split
    · exact (hplus _ rfl).elim
    · exact (hminus _ rfl).elim
    · rfl

/-- A text is read as a decimal if it is one behind its sign. -/
theorem Value.isSome_readDecimal?_iff :
    (Value.readDecimal? cs).isSome = true ↔ IsDecimal (Lexeme.unsigned cs) := by
  rw [Value.readDecimal?, Value.withoutSign_eq_unsigned]
  generalize Lexeme.unsigned cs = u
  simp only [Option.isSome_ite, Bool.and_eq_true, List.all_eq_true, Bool.not_eq_true',
    List.isEmpty_eq_false_iff, and_assoc]
  constructor
  · rintro ⟨hds, hes, hne⟩
    cases hcut : cutAt? '.' u with
    | none =>
        rw [hcut] at hds hne
        exact .whole (by simpa using hne) hds
    | some parts =>
        rw [hcut] at hds hes hne
        rw [(cutAt?_eq_some hcut).1]
        refine .pointed ?_ hds hes
        by_contra hnil
        simp_all
  · rintro (⟨hne, hds⟩ | ⟨hne, hds, hes⟩)
    · rw [cutAt?_of_not_mem (point_not_mem_digits hds)]
      exact ⟨hds, List.forall_mem_nil _, by simpa using hne⟩
    · rename_i ds es
      rw [cutAt?_append fun c hc => ne_of_mem_of_not_mem hc (point_not_mem_digits hds)]
      refine ⟨hds, hes, ?_⟩
      rcases hne with hne | hne <;> simp [hne]

namespace Lexeme

/-- The sign of a text is no point. -/
theorem count_point_unsigned (cs : List Char) : cs.count '.' = (unsigned cs).count '.' := by
  have hsign : (signOf cs).count '.' = 0 := by
    rcases signOf_cases cs with hs | hs | hs <;> rw [hs] <;> rfl
  conv_lhs => rw [eq_signOf_append cs, List.count_append, hsign, Nat.zero_add]

/-- A decimal numeral is the whole text if there are digits in it and all that is behind the first
of them belongs to it. -/
theorem decimalNumeral_eq_self_iff :
    decimalNumeral cs = .ok cs ↔
      ((unsigned cs).takeWhile Char.isDigit ≠ [] ∨
        fractionOf ((unsigned cs).dropWhile Char.isDigit) ≠ []) ∧
      (unsigned cs).dropWhile Char.isDigit =
        pointedPart ((unsigned cs).dropWhile Char.isDigit) := by
  rw [decimalNumeral_eq_ok]
  refine and_congr_right fun _ => ?_
  conv_lhs =>
    lhs
    rw [eq_signOf_append cs,
      ← List.takeWhile_append_dropWhile (p := Char.isDigit) (l := unsigned cs)]
  rw [List.append_right_inj, List.append_right_inj]

/-- Digits behind a point are a fraction, with nothing behind it. -/
theorem pointedPart_digits (h : ∀ c ∈ es, c.isDigit = true) :
    pointedPart ('.' :: es) = '.' :: es ∧ fractionOf ('.' :: es) = es := by
  rw [pointedPart_point, fractionOf_point, List.takeWhile_eq_self_iff.mpr h,
    List.dropWhile_eq_nil_iff.mpr h]
  exact ⟨by simp [furtherParts, runLength], rfl⟩

/-- Without a second point, what stands behind the first one is nothing but digits. -/
theorem digits_of_pointedPart (h : '.' :: es = pointedPart ('.' :: es)) (hpoint : '.' ∉ es) :
    ∀ c ∈ es, c.isDigit = true := by
  have hhead : (es.dropWhile Char.isDigit).head? ≠ some '.' := fun hhead =>
    hpoint ((List.dropWhile_sublist _).subset (List.mem_of_mem_head? hhead))
  rw [pointedPart_point, furtherParts_of_stops stops_dropWhile hhead, List.append_nil,
    List.cons.injEq] at h
  rw [h.2]
  exact all_takeWhile

/-- A decimal numeral with at most one point is a decimal behind its sign. -/
theorem decimalNumeral_eq_self_iff_isDecimal :
    decimalNumeral cs = .ok cs ∧ cs.count '.' ≤ 1 ↔ IsDecimal (unsigned cs) := by
  rw [decimalNumeral_eq_self_iff, count_point_unsigned]
  generalize unsigned cs = u
  constructor
  · rintro ⟨⟨hdigits, hall⟩, hcount⟩
    have hsplit := List.takeWhile_append_dropWhile (p := Char.isDigit) (l := u)
    by_cases hpoint : (u.dropWhile Char.isDigit).head? = some '.'
    · obtain ⟨es, hes⟩ := List.head?_eq_some_iff.mp hpoint
      rw [hes] at hdigits hall hsplit
      rw [← hsplit] at hcount ⊢
      have hone : '.' ∉ es := by
        simp only [List.count_append, List.count_cons_self] at hcount
        exact List.count_eq_zero.mp (by omega)
      have hfraction := digits_of_pointedPart hall hone
      rw [(pointedPart_digits hfraction).2] at hdigits
      exact .pointed hdigits all_takeWhile hfraction
    · -- nothing belongs to the numeral that starts with neither a digit nor a point
      obtain ⟨hnone, hfraction⟩ := pointedPart_of_stops stops_dropWhile hpoint
      rw [hnone] at hall
      rw [hall, List.append_nil] at hsplit
      rw [hfraction] at hdigits
      rw [← hsplit]
      exact .whole (by simpa using hdigits) all_takeWhile
  · rintro (⟨hne, hds⟩ | ⟨hne, hds, hes⟩)
    · rw [List.takeWhile_eq_self_iff.mpr hds, List.dropWhile_eq_nil_iff.mpr hds,
        List.count_eq_zero.mpr (point_not_mem_digits hds)]
      exact ⟨⟨.inl hne, by rfl⟩, Nat.zero_le 1⟩
    · rename_i ds es
      have hstops : Stops Char.isDigit ('.' :: es) := stops_cons (by decide)
      obtain ⟨hpart, hfraction⟩ := pointedPart_digits hes
      rw [takeWhile_append_stops hds hstops, dropWhile_append_stops hds hstops, hpart, hfraction,
        List.count_append, List.count_cons_self, List.count_eq_zero.mpr (point_not_mem_digits hds),
        List.count_eq_zero.mpr (point_not_mem_digits hes)]
      exact ⟨⟨hne, rfl⟩, Nat.le_refl 1⟩

end Lexeme

end Decimals

/-! ## §2  Hexadecimal texts -/

/-- The text is a zero and an x, in either case, with `ds` behind them. -/
def IsHexadecimal (cs ds : List Char) : Prop :=
  cs = '0' :: 'x' :: ds ∨ cs = '0' :: 'X' :: ds

section Hexadecimal

variable {cs ds : List Char}

theorem Value.hexDigits?_eq_some_iff : Value.hexDigits? cs = some ds ↔ IsHexadecimal cs ds := by
  constructor
  · intro h
    unfold Value.hexDigits? at h
    split at h
    · cases h
      exact .inl rfl
    · cases h
      exact .inr rfl
    · cases h
  · rintro (rfl | rfl) <;> rfl

/-- Digits that fit 64 bits are read, and nothing else. -/
theorem Value.isSome_readHex?_iff :
    (Value.readHex? ds).isSome = true ↔
      (ds ≠ [] ∧ ∀ c ∈ ds, isHexDigit c = true) ∧ hexadecimal ds < wordLimit := by
  rw [Value.readHex?]
  simp

/-- A hexadecimal numeral is the whole text if there are digits behind the x and nothing else. -/
theorem Lexeme.numeralChars_eq_self_iff (h : IsHexadecimal cs ds) :
    Lexeme.numeralChars cs = .ok cs ↔ ds ≠ [] ∧ ∀ c ∈ ds, isHexDigit c = true := by
  obtain ⟨x, hx, rfl⟩ : ∃ x, (x = 'x' ∨ x = 'X') ∧ cs = '0' :: x :: ds := by
    rcases h with rfl | rfl
    · exact ⟨'x', .inl rfl, rfl⟩
    · exact ⟨'X', .inr rfl, rfl⟩
  cases ds with
  | nil =>
      -- with nothing behind the x, the numeral is the zero in front of it
      refine iff_of_false (fun hall => ?_) (fun hall => hall.1 rfl)
      rcases hx with rfl | rfl <;> cases hall
  | cons d ds =>
      rw [Lexeme.numeralChars, if_pos hx]
      constructor
      · intro hall
        obtain ⟨_, heq⟩ := Lexeme.hexNumeral_eq_ok hall
        simp only [List.cons.injEq, true_and] at heq
        exact ⟨List.cons_ne_nil d ds, List.takeWhile_eq_self_iff.mp heq.symm⟩
      · rintro ⟨_, hall⟩
        rw [Lexeme.hexNumeral, List.takeWhile_eq_self_iff.mpr hall]
        rfl

/-- The characters of a numeral that is the whole text. A numeral in decimals may have too many
points to be a number, and a hexadecimal one may be too large. -/
theorem Value.isSome_readNumber?_iff (h : trim cs = cs) :
    (Value.readNumber? cs).isSome = true ↔
      Lexeme.numeralChars cs = .ok cs ∧
        ((∃ ds, IsHexadecimal cs ds ∧ hexadecimal ds < wordLimit) ∨
          (¬∃ ds, IsHexadecimal cs ds) ∧ cs.count '.' ≤ 1) := by
  rw [Value.readNumber?, h]
  cases hhex : Value.hexDigits? cs with
  | some ds =>
      have hds := Value.hexDigits?_eq_some_iff.mp hhex
      have hunique : ∀ es, IsHexadecimal cs es → es = ds := fun es hes =>
        Option.some.inj ((Value.hexDigits?_eq_some_iff.mpr hes).symm.trans hhex)
      show (Value.readHex? ds).isSome = true ↔ _
      rw [Value.isSome_readHex?_iff, ← Lexeme.numeralChars_eq_self_iff hds]
      refine and_congr_right fun _ => ⟨fun hlt => .inl ⟨ds, hds, hlt⟩, ?_⟩
      rintro (⟨es, hes, hlt⟩ | ⟨hnone, _⟩)
      · rwa [← hunique es hes]
      · exact absurd ⟨ds, hds⟩ hnone
  | none =>
      have hnone : ¬∃ ds, IsHexadecimal cs ds := by
        rintro ⟨ds, hds⟩
        rw [Value.hexDigits?_eq_some_iff.mpr hds] at hhex
        cases hhex
      have hstarts : ¬Lexeme.StartsHex cs := by
        rintro ⟨x, c, more, rfl, rfl | rfl⟩
        · exact hnone ⟨_, .inl rfl⟩
        · exact hnone ⟨_, .inr rfl⟩
      show (Value.readDecimal? cs).isSome = true ↔ _
      rw [Value.isSome_readDecimal?_iff, ← Lexeme.decimalNumeral_eq_self_iff_isDecimal,
        Lexeme.numeralChars_of_not_startsHex hstarts]
      refine and_congr_right fun _ => ⟨fun hcount => .inr ⟨hnone, hcount⟩, ?_⟩
      rintro (⟨ds, hds, _⟩ | ⟨_, hcount⟩)
      · exact absurd ⟨ds, hds⟩ hnone
      · exact hcount

end Hexadecimal

/-! ## §3  Tokens -/

section Tokens

variable {mode : Mode} {c : Char} {cs : List Char} {s : String}

/-- A condition is one numeral, which is all of it. -/
def IsOneNumeral (mode : Mode) (s : String) : Prop :=
  ∃ start stop, tokenize mode s = .ok [.token ⟨.numeral s, start⟩, .endOfInput stop]

namespace Lexeme

/-- Words are no numerals, so that a text without a mark in front is read as one only if it starts
like one. -/
theorem readLexeme_eq_numeral_iff (hmark : c ∉ marks) :
    readLexeme mode c cs = .ok (numeral s) ↔
      startsNumeral c = true ∧ readNumeral (c :: cs) = .ok (numeral s) := by
  have hword : readWord (c :: cs) ≠ numeral s := by
    unfold readWord
    simp only []
    split
    · exact nofun
    · split <;> exact nofun
  rw [readLexeme_of_not_mark hmark]
  split
  · rename_i hstart
    simp [hstart]
  · rename_i hstart
    refine iff_of_false (fun h => ?_) (fun h => hstart h.1)
    split at h
    · exact hword (Except.ok.inj h)
    · cases h

theorem numeralChars_of_readNumeral (h : readNumeral s.toList = .ok (numeral s)) :
    numeralChars s.toList = .ok s.toList := by
  obtain ⟨chars, hchars, hread⟩ := bind_eq_ok.mp h
  have heq : numeral (String.ofList chars) = numeral s := by
    split at hread
    · exact Except.ok.inj hread
    · split at hread
      · cases hread
      · exact Except.ok.inj hread
  rw [hchars, ← numeral.inj heq, String.toList_ofList]

theorem readNumeral_of_numeralChars (h : numeralChars s.toList = .ok s.toList) :
    readNumeral s.toList = .ok (numeral s) := by
  refine bind_eq_ok.mpr ⟨_, h, ?_⟩
  rw [List.drop_length, String.ofList_toList]

theorem startsNumeral_of_numeralChars (h : numeralChars (c :: cs) = .ok (c :: cs)) :
    startsNumeral c = true := by
  by_cases hhex : StartsHex (c :: cs)
  · obtain ⟨x, d, more, heq, _⟩ := hhex
    obtain ⟨rfl, _⟩ := List.cons.inj heq
    rfl
  · rw [numeralChars_of_not_startsHex hhex] at h
    rcases mem_decimalNumeral h List.mem_cons_self with hdigit | hsign
    · simp [startsNumeral, hdigit]
    · simp only [List.mem_cons, List.not_mem_nil, or_false] at hsign
      rcases hsign with rfl | rfl | rfl <;> rfl

end Lexeme

/-- A text without blanks around it is one numeral if all its characters belong to the numeral that
it starts with. -/
theorem isOneNumeral_iff (hs : Bare s.toList) :
    IsOneNumeral mode s ↔ Lexeme.numeralChars s.toList = .ok s.toList := by
  constructor
  · rintro ⟨start, stop, h⟩
    have hlex : lexAt mode 0 s.toList = ⟨[⟨.numeral s, start⟩], .ok stop⟩ :=
      tokenize_eq_single_iff.mp h
    obtain ⟨c, cs, hcs⟩ : ∃ c cs, s.toList = c :: cs := by
      refine List.exists_cons_of_ne_nil fun hnil => ?_
      rw [hnil] at hlex
      cases hlex
    have hblank : isBlank c = false := (hcs ▸ hs.front).head
    rw [hcs] at hlex
    cases hread : Lexeme.readLexeme mode c cs with
    | error fault =>
        rw [lexAt_fault hblank hread] at hlex
        cases hlex
    | ok l =>
        obtain ⟨src, rest, heq, hspells, hends⟩ := Lexeme.spells_of_readLexeme hblank hread
        rw [heq, lexAt_lexeme hspells hends] at hlex
        have htoken : (⟨l, 0⟩ : Token) = ⟨.numeral s, start⟩ :=
          (List.cons.inj (congrArg Lexed.tokens hlex)).1
        obtain ⟨rfl, _⟩ := Token.mk.inj htoken
        have hmark : c ∉ Lexeme.marks := by
          obtain ⟨⟨hsrc, hplain⟩, _⟩ := hspells
          rw [hsrc, hcs] at hplain
          exact hplain c List.mem_cons_self
        refine Lexeme.numeralChars_of_readNumeral ?_
        rw [hcs]
        exact ((Lexeme.readLexeme_eq_numeral_iff hmark).mp hread).2
  · intro h
    obtain ⟨c, cs, hcs⟩ := List.exists_cons_of_ne_nil (Lexeme.exists_eq_append_of_numeralChars h).1
    have hblank : isBlank c = false := (hcs ▸ hs.front).head
    have hmark : c ∉ Lexeme.marks :=
      Lexeme.not_mem_marks_of_numeralChars h (hcs ▸ List.mem_cons_self)
    have hread : Lexeme.readLexeme mode c cs = .ok (.numeral s) :=
      (Lexeme.readLexeme_eq_numeral_iff hmark).mpr
        ⟨Lexeme.startsNumeral_of_numeralChars (hcs ▸ h),
          hcs ▸ Lexeme.readNumeral_of_numeralChars h⟩
    have hwidth : (c :: cs).length = (Lexeme.numeral s).width := by
      rw [← hcs, String.length_toList]
      rfl
    have hlex : lexAt mode 0 (c :: (cs ++ [])) = _ :=
      lexAt_read hblank hwidth (by rwa [List.append_nil])
    rw [List.append_nil, ← hcs] at hlex
    exact ⟨0, _, tokenize_eq_single_iff.mpr hlex⟩

/-- **A text is a number exactly if it is one numeral** that is hexadecimal and fits 64 bits, or
that is not hexadecimal and has at most one point. The text has no blanks around it, for these are
not part of a numeral and do not matter for a number. -/
theorem isNumber_iff_isOneNumeral (mode : Mode) (hs : Bare s.toList) :
    (Value.readNumber? s.toList).isSome = true ↔
      IsOneNumeral mode s ∧
        ((∃ ds, IsHexadecimal s.toList ds ∧ hexadecimal ds < wordLimit) ∨
          (¬∃ ds, IsHexadecimal s.toList ds) ∧ s.toList.count '.' ≤ 1) := by
  rw [isOneNumeral_iff hs]
  exact Value.isSome_readNumber?_iff (trim_of_bare hs)

end Tokens

/-- The largest number of 64 bits is one numeral. -/
theorem isNumber_iff_isOneNumeral_largest :
    Bare "0XffffffffFFFFFFFF".toList ∧
      (Value.readNumber? "0XffffffffFFFFFFFF".toList).isSome = true ∧
      IsOneNumeral .everything "0XffffffffFFFFFFFF" := by
  have hbare : Bare "0XffffffffFFFFFFFF".toList := by decide
  have hnumber : (Value.readNumber? "0XffffffffFFFFFFFF".toList).isSome = true := by decide
  exact ⟨hbare, hnumber, ((isNumber_iff_isOneNumeral .everything hbare).mp hnumber).1⟩

/-- It is not enough that a numeral has at most one point: the number behind the largest one of 64
bits is written without any, and it is not read. -/
theorem numeral_past_largest_is_no_number :
    Bare "0x10000000000000000".toList ∧
      ¬((Value.readNumber? "0x10000000000000000".toList).isSome = true ↔
        IsOneNumeral .everything "0x10000000000000000" ∧
          ((∃ ds, IsHexadecimal "0x10000000000000000".toList ds ∧ hexadecimal ds < wordLimit) ∨
            "0x10000000000000000".toList.count '.' ≤ 1)) := by
  have hnone : (Value.readNumber? "0x10000000000000000".toList).isSome = false := by decide
  have hnumeral : IsOneNumeral .everything "0x10000000000000000" := ⟨0, 19, by rfl⟩
  refine ⟨by decide, fun h => ?_⟩
  rw [h.mpr ⟨hnumeral, .inr (by decide)⟩] at hnone
  cases hnone

end BuildCondition
