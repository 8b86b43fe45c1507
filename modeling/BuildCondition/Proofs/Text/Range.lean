import BuildCondition.Text.Range
import Mathlib.Data.List.Chain

/-!
# Trying the characters of a table

A table of characters has finitely many codes. What has been tried on each of them holds of all
characters in the table (§1). That two tables have no character in common is told by their ranges
alone, and as these come in ascending order, most of them need not be looked at (§2).
-/

namespace BuildCondition.Text

variable {table other : Ranges} {first last : Nat} {c : Char}

/-! ## §1  One code after the other -/

/-- The codes in a table, one by one. -/
def codes (table : Ranges) : List Nat :=
  table.flatMap fun r => List.range' r.1 (r.2 + 1 - r.1)

theorem mem_codes (h : inRanges table c = true) : c.toNat ∈ codes table := by
  obtain ⟨r, hr, hc⟩ := List.any_eq_true.mp h
  rw [Bool.and_eq_true, decide_eq_true_eq, decide_eq_true_eq] at hc
  refine List.mem_flatMap.mpr ⟨r, hr, List.mem_range'_1.mpr ?_⟩
  omega

theorem forall_inRanges {P : Char → Prop} (h : ∀ n ∈ codes table, P (Char.ofNat n))
    (hc : inRanges table c = true) : P c := by
  have hcode := h c.toNat (mem_codes hc)
  rwa [Char.ofNat_toNat] at hcode

theorem inRanges_of_mem {r : Nat × Nat} (hr : r ∈ table) (hfirst : r.1 ≤ c.toNat)
    (hlast : c.toNat ≤ r.2) : inRanges table c = true := by
  refine List.any_eq_true.mpr ⟨r, hr, ?_⟩
  rw [Bool.and_eq_true, decide_eq_true_eq, decide_eq_true_eq]
  exact ⟨hfirst, hlast⟩

/-- A statement about ASCII characters can be tried on each of them. -/
theorem forall_ascii {P : Char → Prop} (h : ∀ n < 128, P (Char.ofNat n)) (hc : c.toNat < 128) :
    P c := by
  have hcode := h c.toNat hc
  rwa [Char.ofNat_toNat] at hcode

/-! ## §2  Tables that are apart -/

/-- A table holds no character of a run that all its ranges avoid. -/
theorem inRanges_eq_false (h : ∀ r ∈ table, r.2 < first ∨ last < r.1)
    (hfirst : first ≤ c.toNat) (hlast : c.toNat ≤ last) : inRanges table c = false := by
  rw [← Bool.not_eq_true]
  intro hc
  obtain ⟨r, hr, hin⟩ := List.any_eq_true.mp hc
  rw [Bool.and_eq_true, decide_eq_true_eq, decide_eq_true_eq] at hin
  have havoid := h r hr
  omega

/-- The ranges of a table come in ascending order. -/
def Ascending (table : Ranges) : Prop :=
  table.Pairwise fun r s => r.1 < s.1

theorem ascending_of_isChain (h : table.IsChain fun r s => r.1 < s.1) : Ascending table := by
  have : Trans (fun r s : Nat × Nat => r.1 < s.1) (fun r s : Nat × Nat => r.1 < s.1)
      fun r s : Nat × Nat => r.1 < s.1 := ⟨Nat.lt_trans⟩
  exact List.isChain_iff_pairwise.mp h

/-- Whether an ascending table holds nothing from `first` to `last`. No range behind `last` is
looked at. -/
def avoids (first last : Nat) : Ranges → Bool
  | [] => true
  | r :: table => bif r.2.blt first then avoids first last table else last.blt r.1

theorem forall_of_avoids (hasc : Ascending table) (h : avoids first last table = true) :
    ∀ r ∈ table, r.2 < first ∨ last < r.1 := by
  induction table with
  | nil => exact List.forall_mem_nil _
  | cons r table ih =>
      obtain ⟨hr, hasc⟩ := List.pairwise_cons.mp hasc
      rw [avoids] at h
      cases hbefore : r.2.blt first with
      | true =>
          rw [hbefore, cond_true] at h
          exact List.forall_mem_cons.mpr ⟨.inl (Nat.blt_eq.mp hbefore), ih hasc h⟩
      | false =>
          rw [hbefore, cond_false, Nat.blt_eq] at h
          exact List.forall_mem_cons.mpr
            ⟨.inr h, fun s hs => .inr (Nat.lt_trans h (hr s hs))⟩

theorem inRanges_eq_false_of_avoids (hasc : Ascending table)
    (h : avoids first last table = true) (hfirst : first ≤ c.toNat) (hlast : c.toNat ≤ last) :
    inRanges table c = false :=
  inRanges_eq_false (forall_of_avoids hasc h) hfirst hlast

/-- What one table holds is not in another that avoids all its ranges. -/
theorem inRanges_eq_false_of_apart (hasc : Ascending other)
    (h : table.all (fun r => avoids r.1 r.2 other) = true) (hc : inRanges table c = true) :
    inRanges other c = false := by
  obtain ⟨r, hr, hin⟩ := List.any_eq_true.mp hc
  rw [Bool.and_eq_true, decide_eq_true_eq, decide_eq_true_eq] at hin
  exact inRanges_eq_false_of_avoids hasc (List.all_eq_true.mp h r hr) hin.1 hin.2

end BuildCondition.Text
