import BuildCondition.Text.Digit

/-!
# Numbers written in digits

A number is read back from its decimal digits, of which the first is zero for the number zero only.
-/

namespace BuildCondition.Text

/-- The value of digits, as the library has it. -/
theorem decimal_eq_ofDigitChars (cs : List Char) : decimal cs = Nat.ofDigitChars 10 cs 0 :=
  Nat.ofDigitChars_eq_foldl.symm

theorem decimal_toDigits (n : Nat) : decimal (Nat.toDigits 10 n) = n := by
  rw [decimal_eq_ofDigitChars, Nat.ofDigitChars_ten_toDigits]

theorem isDigit_toDigits (n : Nat) : ∀ c ∈ Nat.toDigits 10 n, c.isDigit = true := by
  intro c hc
  exact Nat.isDigit_of_mem_toDigits (by decide) (by decide) hc

theorem head?_toDigits {n : Nat} (h : (Nat.toDigits 10 n).head? = some '0') : n = 0 := by
  induction n using Nat.strongRecOn with
  | ind n ih =>
      rw [Nat.toDigits_eq_if (by decide)] at h
      split at h
      · rename_i hlt
        -- of the single digits, tried one by one, only that of zero is zero
        have hzero : ∀ m < 10, m.digitChar = '0' → m = 0 := by decide
        exact hzero n hlt (Option.some.inj h)
      · rename_i hge
        obtain ⟨d, ds, hds⟩ : ∃ d ds, Nat.toDigits 10 (n / 10) = d :: ds :=
          List.exists_cons_of_ne_nil Nat.toDigits_ne_nil
        have hless := ih (n / 10) (by omega)
        rw [hds] at h hless
        have := hless h
        omega

end BuildCondition.Text
