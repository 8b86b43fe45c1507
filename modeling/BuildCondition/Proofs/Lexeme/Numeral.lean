import BuildCondition.Lexeme.Reader
import BuildCondition.Proofs.Text.Cut
import BuildCondition.Proofs.Text.Range
import Mathlib.Tactic.ByContra

/-!
# Where numerals end

A numeral takes as many characters as it can, and what stands behind it must not clash with it.
Whatever does not clash leaves the numeral as it is, so that a numeral is read in the same way
before any two such texts.
-/

namespace BuildCondition.Lexeme

open BuildCondition.Text

variable {c : Char} {cs chars rest : List Char}

/-! ## §1  What does not clash -/

theorem toNat_lt_of_le {d : Char} (h : c ≤ d) (hd : d.toNat < 128) : c.toNat < 128 :=
  Nat.lt_of_le_of_lt (UInt32.le_iff_toNat_le.mp (Char.le_def.mp h)) hd

theorem toNat_lt_of_isHexDigit (h : isHexDigit c = true) : c.toNat < 128 := by
  unfold isHexDigit hexValue? at h
  split at h
  · rename_i hd
    simp only [Char.isDigit, Bool.and_eq_true, decide_eq_true_eq] at hd
    exact toNat_lt_of_le (d := '9') hd.2 (by decide)
  · split at h
    · rename_i hd
      exact toNat_lt_of_le hd.2 (by decide)
    · split at h
      · rename_i hd
        exact toNat_lt_of_le hd.2 (by decide)
      · cases h

theorem isHexDigit_of_isDigit (h : c.isDigit = true) : isHexDigit c = true := by
  rw [isHexDigit, hexValue?, if_pos h]
  rfl

theorem clashes_of_isHexDigit (h : isHexDigit c = true) : clashesWithNumeral c = true :=
  forall_ascii (P := fun c => isHexDigit c = true → clashesWithNumeral c = true) (by decide)
    (toNat_lt_of_isHexDigit h) h

theorem stops_isHexDigit (h : Stops clashesWithNumeral rest) : Stops isHexDigit rest := by
  intro c hc
  cases hd : isHexDigit c with
  | false => rfl
  | true => rw [← h c hc, clashes_of_isHexDigit hd]

theorem stops_isDigit (h : Stops clashesWithNumeral rest) : Stops Char.isDigit rest := by
  intro c hc
  cases hd : c.isDigit with
  | false => rfl
  | true => rw [← stops_isHexDigit h c hc, isHexDigit_of_isDigit hd]

theorem head?_ne_of_clashes (h : Stops clashesWithNumeral rest) (hc : clashesWithNumeral c = true) :
    rest.head? ≠ some c := by
  intro hhead
  rw [h c hhead] at hc
  cases hc

/-! ## §2  Further parts -/

theorem furtherParts_cons :
    furtherParts (c :: cs) =
      if c.isDigit || (c == '.' && digitFollows cs) then c :: furtherParts cs else [] := by
  by_cases h : (c.isDigit || (c == '.' && digitFollows cs)) = true
  · rw [if_pos h, furtherParts, runLength, if_pos h, runLength_add, Nat.add_comm]
    rfl
  · rw [if_neg h, furtherParts, runLength, if_neg h]
    rfl

theorem exists_eq_furtherParts_append (cs : List Char) : ∃ rest, cs = furtherParts cs ++ rest :=
  ⟨_, (List.take_append_drop _ cs).symm⟩

theorem furtherParts_of_stops (hdigit : Stops Char.isDigit cs) (hpoint : cs.head? ≠ some '.') :
    furtherParts cs = [] := by
  cases cs with
  | nil => rfl
  | cons c cs =>
      have hc : (c == '.') = false := by simpa using hpoint
      rw [furtherParts_cons, hdigit.head, hc]
      rfl

/-- A point is a further part only if a digit follows, so that the further parts end with a digit
and what is behind them does not matter. -/
theorem furtherParts_append (hrest : Stops clashesWithNumeral rest) :
    furtherParts (furtherParts cs ++ rest) = furtherParts cs := by
  have hnone : furtherParts rest = [] :=
    furtherParts_of_stops (stops_isDigit hrest) (head?_ne_of_clashes hrest (by decide))
  induction cs with
  | nil => exact hnone
  | cons c cs ih =>
      by_cases h : (c.isDigit || (c == '.' && digitFollows cs)) = true
      · -- a point that is kept has a digit behind it, and that is kept as well
        have hagain :
            (c.isDigit || (c == '.' && digitFollows (furtherParts cs ++ rest))) = true := by
          cases hd : c.isDigit with
          | true => rfl
          | false =>
              rw [hd, Bool.false_or, Bool.and_eq_true] at h
              cases cs with
              | nil => cases h.2
              | cons d cs =>
                  have hdigit : d.isDigit = true := h.2
                  rw [furtherParts_cons, hdigit, h.1]
                  exact hdigit
        rw [furtherParts_cons, if_pos h, List.cons_append, furtherParts_cons, if_pos hagain, ih]
      · rw [furtherParts_cons, if_neg h]
        exact hnone

/-! ## §3  Decimal numerals -/

/-- The digits behind the point that a text starts with, if it does. -/
def fractionOf (cs : List Char) : List Char :=
  (cs.drop (pointOf cs).length).takeWhile Char.isDigit

/-- What a decimal numeral has from its point on. -/
def pointedPart (cs : List Char) : List Char :=
  pointOf cs ++ (fractionOf cs ++
    furtherParts ((cs.drop (pointOf cs).length).dropWhile Char.isDigit))

/-- A text without the sign it starts with. -/
def unsigned (cs : List Char) : List Char :=
  cs.drop (signOf cs).length

theorem decimalNumeral_eq_ok :
    decimalNumeral cs = .ok chars ↔
      ((unsigned cs).takeWhile Char.isDigit ≠ [] ∨
        fractionOf ((unsigned cs).dropWhile Char.isDigit) ≠ []) ∧
      chars = signOf cs ++ ((unsigned cs).takeWhile Char.isDigit ++
        pointedPart ((unsigned cs).dropWhile Char.isDigit)) := by
  unfold decimalNumeral pointedPart fractionOf unsigned
  simp only []
  split
  · rename_i h
    rw [Bool.and_eq_true, List.isEmpty_iff, List.isEmpty_iff] at h
    simp [h.1, h.2]
  · rename_i h
    rw [Bool.and_eq_true, List.isEmpty_iff, List.isEmpty_iff] at h
    simp only [Except.ok.injEq, List.append_assoc]
    constructor
    · intro heq
      exact ⟨Classical.not_and_iff_not_or_not.mp h, heq.symm⟩
    · intro hchars
      exact hchars.2.symm

theorem pointOf_of_ne (h : cs.head? ≠ some '.') : pointOf cs = [] := by
  unfold pointOf
  split
  · exact absurd rfl h
  · rfl

theorem length_pointOf_le (cs : List Char) : (pointOf cs).length ≤ cs.length := by
  unfold pointOf
  split
  · exact Nat.succ_le_succ (Nat.zero_le _)
  · exact Nat.zero_le _

theorem pointedPart_point (cs : List Char) :
    pointedPart ('.' :: cs) =
      '.' :: (cs.takeWhile Char.isDigit ++ furtherParts (cs.dropWhile Char.isDigit)) := rfl

theorem fractionOf_point (cs : List Char) :
    fractionOf ('.' :: cs) = cs.takeWhile Char.isDigit := rfl

theorem pointedPart_of_stops (hdigit : Stops Char.isDigit cs) (hpoint : cs.head? ≠ some '.') :
    pointedPart cs = [] ∧ fractionOf cs = [] := by
  have hnone : ∀ c ∈ ([] : List Char), c.isDigit := by
    intro c hc
    cases hc
  have hfraction : fractionOf cs = [] := by
    rw [fractionOf, pointOf_of_ne hpoint]
    exact takeWhile_append_stops hnone hdigit
  have hbeyond : cs.dropWhile Char.isDigit = cs := dropWhile_append_stops hnone hdigit
  refine ⟨?_, hfraction⟩
  rw [pointedPart, hfraction, pointOf_of_ne hpoint]
  show furtherParts (cs.dropWhile Char.isDigit) = []
  rw [hbeyond, furtherParts_of_stops hdigit hpoint]

theorem exists_eq_pointedPart_append (h : Stops Char.isDigit cs) :
    ∃ rest, cs = pointedPart cs ++ rest := by
  by_cases hpoint : cs.head? = some '.'
  · cases cs with
    | nil => cases hpoint
    | cons c cs =>
        cases hpoint
        obtain ⟨rest, hrest⟩ := exists_eq_furtherParts_append (cs.dropWhile Char.isDigit)
        refine ⟨rest, ?_⟩
        rw [pointedPart_point, List.cons_append, List.append_assoc, ← hrest,
          List.takeWhile_append_dropWhile]
  · exact ⟨cs, by rw [(pointedPart_of_stops h hpoint).1, List.nil_append]⟩

theorem pointedPart_append (h : Stops Char.isDigit cs) (hrest : Stops clashesWithNumeral rest) :
    pointedPart (pointedPart cs ++ rest) = pointedPart cs ∧
      fractionOf (pointedPart cs ++ rest) = fractionOf cs ∧
      Stops Char.isDigit (pointedPart cs ++ rest) := by
  by_cases hpoint : cs.head? = some '.'
  · cases cs with
    | nil => cases hpoint
    | cons c cs =>
        cases hpoint
        have hstops : Stops Char.isDigit (furtherParts (cs.dropWhile Char.isDigit) ++ rest) := by
          obtain ⟨after, hafter⟩ := exists_eq_furtherParts_append (cs.dropWhile Char.isDigit)
          have hcut : Stops Char.isDigit (cs.dropWhile Char.isDigit) := stops_dropWhile
          rw [hafter] at hcut
          cases hf : furtherParts (cs.dropWhile Char.isDigit) with
          | nil => exact stops_isDigit hrest
          | cons d ds =>
              rw [hf] at hcut
              exact stops_cons hcut.head
        rw [pointedPart_point, List.cons_append, List.append_assoc, pointedPart_point,
          fractionOf_point, fractionOf_point, takeWhile_append_stops all_takeWhile hstops,
          dropWhile_append_stops all_takeWhile hstops, furtherParts_append hrest]
        exact ⟨rfl, rfl, stops_cons (by decide)⟩
  · obtain ⟨hpart, hfraction⟩ := pointedPart_of_stops h hpoint
    have hdigit := stops_isDigit hrest
    have hnone := pointedPart_of_stops hdigit (head?_ne_of_clashes hrest (by decide))
    rw [hpart, hfraction, List.nil_append]
    exact ⟨hnone.1, hnone.2, hdigit⟩

theorem signOf_of_digit (h : c.isDigit = true) (cs : List Char) : signOf (c :: cs) = [] := by
  unfold signOf
  split
  · rename_i heq
    cases heq
    cases h
  · rename_i heq
    cases heq
    cases h
  · rfl

theorem signOf_cases (cs : List Char) : signOf cs = ['+'] ∨ signOf cs = ['-'] ∨ signOf cs = [] := by
  unfold signOf
  split
  · exact .inl rfl
  · exact .inr (.inl rfl)
  · exact .inr (.inr rfl)

/-- A sign is found again before what cannot be taken for one. -/
theorem signOf_append {text : List Char} (h : signOf text = []) :
    signOf (signOf cs ++ text) = signOf cs := by
  rcases signOf_cases cs with hs | hs | hs
  · rw [hs]
    rfl
  · rw [hs]
    rfl
  · rw [hs]
    exact h

theorem eq_signOf_append (cs : List Char) : cs = signOf cs ++ unsigned cs := by
  unfold unsigned signOf
  split <;> rfl

/-- Before anything that does not clash, a decimal numeral is read again. -/
theorem decimalNumeral_append (h : decimalNumeral cs = .ok chars)
    (hrest : Stops clashesWithNumeral rest) : decimalNumeral (chars ++ rest) = .ok chars := by
  obtain ⟨hdigits, rfl⟩ := decimalNumeral_eq_ok.mp h
  have hstops : Stops Char.isDigit ((unsigned cs).dropWhile Char.isDigit) := stops_dropWhile
  obtain ⟨hpart, hfraction, hend⟩ := pointedPart_append hstops hrest
  generalize hw : (unsigned cs).takeWhile Char.isDigit = whole at *
  generalize hp : (unsigned cs).dropWhile Char.isDigit = beyond at *
  have hwhole : ∀ c ∈ whole, c.isDigit = true := hw ▸ all_takeWhile
  have hsign : signOf (signOf cs ++ (whole ++ (pointedPart beyond ++ rest))) = signOf cs := by
    refine signOf_append ?_
    cases whole with
    | cons c whole => exact signOf_of_digit (hwhole c List.mem_cons_self) _
    | nil =>
        -- there are digits somewhere, hence behind a point, and a point is no sign
        have hpoint : beyond.head? = some '.' := by
          by_contra hne
          rcases hdigits with hne' | hne'
          · exact hne' rfl
          · exact hne' (pointedPart_of_stops hstops hne).2
        cases beyond with
        | nil => cases hpoint
        | cons c beyond =>
            cases hpoint
            rfl
  have hunsigned : unsigned (signOf cs ++ (whole ++ (pointedPart beyond ++ rest))) =
      whole ++ (pointedPart beyond ++ rest) := by
    rw [unsigned, hsign, List.drop_left]
  rw [List.append_assoc, List.append_assoc, decimalNumeral_eq_ok, hunsigned, hsign,
    takeWhile_append_stops hwhole hend, dropWhile_append_stops hwhole hend, hpart, hfraction]
  exact ⟨hdigits, rfl⟩

theorem exists_eq_append_of_decimalNumeral (h : decimalNumeral cs = .ok chars) :
    ∃ rest, cs = chars ++ rest := by
  obtain ⟨_, rfl⟩ := decimalNumeral_eq_ok.mp h
  have hstops : Stops Char.isDigit ((unsigned cs).dropWhile Char.isDigit) := stops_dropWhile
  obtain ⟨rest, hrest⟩ := exists_eq_pointedPart_append hstops
  refine ⟨rest, ?_⟩
  rw [List.append_assoc, List.append_assoc, ← hrest, List.takeWhile_append_dropWhile,
    ← eq_signOf_append]

theorem ne_nil_of_decimalNumeral (h : decimalNumeral cs = .ok chars) : chars ≠ [] := by
  obtain ⟨hdigits, rfl⟩ := decimalNumeral_eq_ok.mp h
  intro hnil
  rw [List.append_eq_nil_iff, List.append_eq_nil_iff, pointedPart, List.append_eq_nil_iff,
    List.append_eq_nil_iff] at hnil
  rcases hdigits with hne | hne
  · exact hne hnil.2.1
  · exact hne hnil.2.2.2.1

theorem mem_furtherParts (h : c ∈ furtherParts cs) : c.isDigit = true ∨ c = '.' := by
  induction cs with
  | nil => cases h
  | cons d cs ih =>
      rw [furtherParts_cons] at h
      split at h
      · rename_i hd
        rcases List.mem_cons.mp h with rfl | h
        · rw [Bool.or_eq_true, Bool.and_eq_true, beq_iff_eq] at hd
          exact hd.imp_right And.left
        · exact ih h
      · cases h

theorem mem_decimalNumeral (h : decimalNumeral cs = .ok chars) (hc : c ∈ chars) :
    c.isDigit = true ∨ c ∈ ['+', '-', '.'] := by
  obtain ⟨_, rfl⟩ := decimalNumeral_eq_ok.mp h
  rw [pointedPart, List.mem_append, List.mem_append, List.mem_append, List.mem_append] at hc
  rcases hc with hc | hc | hc | hc | hc
  · right
    rcases signOf_cases cs with hs | hs | hs
    · rw [hs] at hc
      simp_all
    · rw [hs] at hc
      simp_all
    · rw [hs] at hc
      cases hc
  · exact .inl (all_takeWhile c hc)
  · right
    unfold pointOf at hc
    split at hc
    · simp_all
    · cases hc
  · exact .inl (all_takeWhile c hc)
  · rcases mem_furtherParts hc with hd | rfl
    · exact .inl hd
    · exact .inr (by simp)

/-! ## §4  All numerals -/

/-- A zero and an x with something behind them. -/
def StartsHex (cs : List Char) : Prop :=
  ∃ x c more, cs = '0' :: x :: c :: more ∧ (x = 'x' ∨ x = 'X')

theorem numeralChars_of_not_startsHex (h : ¬StartsHex cs) :
    numeralChars cs = decimalNumeral cs := by
  unfold numeralChars
  split
  · rename_i x c more
    exact if_neg fun hx => h ⟨x, c, more, rfl, hx⟩
  · rfl

theorem hexNumeral_eq_ok {x : Char} (h : hexNumeral x cs = .ok chars) :
    cs.takeWhile isHexDigit ≠ [] ∧ chars = '0' :: x :: cs.takeWhile isHexDigit := by
  unfold hexNumeral at h
  simp only [] at h
  split at h
  · cases h
  · rename_i hne
    cases h
    exact ⟨fun hnil => hne (List.isEmpty_iff.mpr hnil), rfl⟩

theorem hexNumeral_append {x : Char} (h : hexNumeral x cs = .ok chars)
    (hrest : Stops clashesWithNumeral rest) :
    hexNumeral x (cs.takeWhile isHexDigit ++ rest) = .ok chars := by
  obtain ⟨hne, rfl⟩ := hexNumeral_eq_ok h
  have hdigits : (cs.takeWhile isHexDigit ++ rest).takeWhile isHexDigit = cs.takeWhile isHexDigit :=
    takeWhile_append_stops all_takeWhile (stops_isHexDigit hrest)
  unfold hexNumeral
  simp only [hdigits]
  exact if_neg fun hnil => hne (List.isEmpty_iff.mp hnil)

/-- The characters of a numeral are a beginning of the text. -/
theorem exists_eq_append_of_numeralChars (h : numeralChars cs = .ok chars) :
    chars ≠ [] ∧ ∃ rest, cs = chars ++ rest := by
  by_cases hhex : StartsHex cs
  · obtain ⟨x, c, more, rfl, hx⟩ := hhex
    rw [numeralChars, if_pos hx] at h
    obtain ⟨_, rfl⟩ := hexNumeral_eq_ok h
    refine ⟨List.cons_ne_nil _ _, (c :: more).dropWhile isHexDigit, ?_⟩
    rw [List.cons_append, List.cons_append, List.takeWhile_append_dropWhile]
  · rw [numeralChars_of_not_startsHex hhex] at h
    exact ⟨ne_nil_of_decimalNumeral h, exists_eq_append_of_decimalNumeral h⟩

/-- Before anything that does not clash, a numeral is read again. -/
theorem numeralChars_append (h : numeralChars cs = .ok chars)
    (hrest : Stops clashesWithNumeral rest) : numeralChars (chars ++ rest) = .ok chars := by
  by_cases hhex : StartsHex cs
  · obtain ⟨x, c, more, rfl, hx⟩ := hhex
    rw [numeralChars, if_pos hx] at h
    have hagain := hexNumeral_append h hrest
    obtain ⟨hne, rfl⟩ := hexNumeral_eq_ok h
    obtain ⟨d, ds, hds⟩ := List.exists_cons_of_ne_nil hne
    rw [hds, List.cons_append] at hagain
    rw [hds]
    show numeralChars ('0' :: x :: d :: (ds ++ rest)) = _
    rw [numeralChars, if_pos hx, hagain]
  · rw [numeralChars_of_not_startsHex hhex] at h
    -- an x is not a part of a decimal numeral and clashes with it
    have hagain : ¬StartsHex (chars ++ rest) := by
      rintro ⟨x, c, more, heq, hx⟩
      have hclash : clashesWithNumeral x = true := by rcases hx with rfl | rfl <;> decide
      have hchars : x ∉ chars := by
        intro hmem
        have := mem_decimalNumeral h hmem
        rcases hx with rfl | rfl <;> simp at this
      obtain ⟨d, ds, rfl⟩ := List.exists_cons_of_ne_nil (ne_nil_of_decimalNumeral h)
      rw [List.cons_append, List.cons.injEq] at heq
      cases ds with
      | nil => exact head?_ne_of_clashes hrest hclash (by rw [← List.nil_append rest, heq.2]; rfl)
      | cons e ds =>
          rw [List.cons_append, List.cons.injEq] at heq
          exact hchars (by simp [heq.2.1])
    rw [numeralChars_of_not_startsHex hagain, decimalNumeral_append h hrest]

theorem mem_numeralChars (h : numeralChars cs = .ok chars) (hc : c ∈ chars) :
    clashesWithNumeral c = true ∨ c = '+' ∨ c = '-' := by
  by_cases hhex : StartsHex cs
  · obtain ⟨x, d, more, rfl, hx⟩ := hhex
    rw [numeralChars, if_pos hx] at h
    obtain ⟨_, rfl⟩ := hexNumeral_eq_ok h
    left
    rcases List.mem_cons.mp hc with rfl | hc
    · decide
    · rcases List.mem_cons.mp hc with rfl | hc
      · rcases hx with rfl | rfl <;> decide
      · exact clashes_of_isHexDigit (all_takeWhile c hc)
  · rw [numeralChars_of_not_startsHex hhex] at h
    rcases mem_decimalNumeral h hc with hd | hd
    · exact .inl (clashes_of_isHexDigit (isHexDigit_of_isDigit hd))
    · rcases List.mem_cons.mp hd with rfl | hd
      · exact .inr (.inl rfl)
      · rcases List.mem_cons.mp hd with rfl | hd
        · exact .inr (.inr rfl)
        · rw [List.mem_singleton.mp hd]
          exact .inl (by decide)

end BuildCondition.Lexeme
