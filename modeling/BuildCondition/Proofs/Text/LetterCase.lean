import BuildCondition.Proofs.Text.Lowercase

/-!
# Lower case, character by character

Two texts may have the same lower case one character after the other, and yet not as a whole. A
capital sigma has two small forms, and the characters around it tell which one it takes. Of these
characters only the case counts, and letters with the same lower case are alike in that (§1). So the
small forms of two such texts differ in one way only: a capital sigma that ends a word in one text
meets a small sigma in the other (§2).
-/

namespace BuildCondition.Text

/-! ## §1  Letters with the same lower case -/

/-- A character that has case and is not looked through when the end of a word is sought. -/
structure TellsCase (c : Char) : Prop where
  cased : isCased c = true
  seen : isCaseIgnorable c = false

/-- Whether one range of a table holds everything from `first` to `last`. -/
def covers (first last : Nat) (table : Ranges) : Bool :=
  table.any fun r => r.1.ble first && last.ble r.2

/-- Whether all characters from `first` to `last` have case and are not looked through. -/
def allTellCase (first last : Nat) : Bool :=
  covers first last casedRanges && avoids first last caseIgnorableRanges

section Tables

variable {first last n : Nat} {c d : Char}

/-- What has to be tried on the tables: what is cased is a character, and the capitals of a run have
case, all from the first to the last or each for itself, as has what the run makes of them. -/
theorem cases_tried :
    (∀ r ∈ casedRanges, r.2 < 0xD800 ∨ 0xDFFF < r.1 ∧ r.2 < 0x110000) ∧
    ∀ r ∈ lowerRuns,
      (allTellCase r.1 r.2.1 = true ∨
        ∀ n ∈ List.range' r.1 ((r.2.1 - r.1) / r.2.2.1 + 1) r.2.2.1, allTellCase n n = true) ∧
      allTellCase (r.1 + r.2.2.2).toNat (r.2.1 + r.2.2.2).toNat = true := by
  decide +kernel

theorem isValidChar_of_covers (h : covers first last casedRanges = true) (hfirst : first ≤ n)
    (hlast : n ≤ last) : n.isValidChar := by
  obtain ⟨r, hr, hin⟩ := List.any_eq_true.mp h
  rw [Bool.and_eq_true, Nat.ble_eq, Nat.ble_eq] at hin
  have hvalid := cases_tried.1 r hr
  unfold Nat.isValidChar
  omega

theorem tellsCase_of_all (h : allTellCase first last = true) (hfirst : first ≤ c.toNat)
    (hlast : c.toNat ≤ last) : TellsCase c := by
  rw [allTellCase, Bool.and_eq_true] at h
  constructor
  · obtain ⟨r, hr, hin⟩ := List.any_eq_true.mp h.1
    rw [Bool.and_eq_true, Nat.ble_eq, Nat.ble_eq] at hin
    exact inRanges_of_mem hr (hin.1.trans hfirst) (hlast.trans hin.2)
  · exact inRanges_eq_false_of_avoids ascending_caseIgnorableRanges h.2 hfirst hlast

theorem tellsCase_ofNat (h : allTellCase first last = true) (hfirst : first ≤ n)
    (hlast : n ≤ last) : TellsCase (Char.ofNat n) := by
  have hcovers := h
  rw [allTellCase, Bool.and_eq_true] at hcovers
  have hn : (Char.ofNat n).toNat = n := by
    rw [Char.ofNat, dif_pos (isValidChar_of_covers hcovers.1 hfirst hlast)]
    rfl
  apply tellsCase_of_all h <;> rwa [hn]

/-- A capital of a run has case, and so has what the run makes of it. -/
theorem tellsCase_of_run {r : Nat × Nat × Nat × Int} (hr : r ∈ lowerRuns) (hfirst : r.1 ≤ n)
    (hlast : n ≤ r.2.1) (hstep : (n - r.1) % r.2.2.1 = 0) :
    TellsCase (Char.ofNat n) ∧ TellsCase (Char.ofNat (n + r.2.2.2).toNat) := by
  obtain ⟨hcapitals, hsmall⟩ := cases_tried.2 r hr
  constructor
  · rcases hcapitals with hwhole | hsingle
    · exact tellsCase_ofNat hwhole hfirst hlast
    · -- some of the codes between those of the run belong to no character
      refine tellsCase_ofNat (hsingle n ?_) (Nat.le_refl n) (Nat.le_refl n)
      refine List.mem_range'.mpr ⟨(n - r.1) / r.2.2.1, ?_, ?_⟩
      · have := Nat.div_le_div_right (c := r.2.2.1) (Nat.sub_le_sub_right hlast r.1)
        omega
      · have := Nat.div_add_mod (n - r.1) r.2.2.1
        omega
  · exact tellsCase_ofNat hsmall (by omega) (by omega)

theorem tellsCase_letter (h : IsAsciiLetter c) : TellsCase c :=
  ⟨isCased_letter h, isCaseIgnorable_letter h⟩

theorem tellsCase_toLower (c : Char) : c.toLower = c ∨ TellsCase c ∧ TellsCase c.toLower := by
  refine toLower_cases (P := fun c d => d = c ∨ TellsCase c ∧ TellsCase d) (fun n hn => .inr ?_)
    (fun _ => .inl rfl) c
  obtain ⟨hcapital, hsmall⟩ := isAsciiLetter_pair hn
  exact ⟨tellsCase_letter hcapital, tellsCase_letter hsmall⟩

/-- A character is its own lower case, or a letter that has another one, or the one whose lower case
are two characters. -/
theorem lowerChar_cases (c : Char) : lowerChar c = [c] ∨ c = '\u0130' ∨
    ∃ d, lowerChar c = [d] ∧ TellsCase c ∧ TellsCase d := by
  unfold lowerChar
  split
  · rcases tellsCase_toLower c with hsame | hletter
    · exact .inl (by rw [hsame])
    · exact .inr (.inr ⟨_, rfl, hletter⟩)
  · split
    · rename_i hdotted
      exact .inr (.inl hdotted)
    · rcases lowerCode_cases lowerRuns c.toNat with hsame | ⟨r, hr, hfirst, hlast, hstep, hfound⟩
      · exact .inl (by rw [hsame, Char.ofNat_toNat])
      · have hletter := tellsCase_of_run hr hfirst hlast hstep
        rw [Char.ofNat_toNat, ← hfound] at hletter
        exact .inr (.inr ⟨_, rfl, hletter⟩)

/-- Different characters with the same lower case are letters. -/
theorem tellsCase_of_lowerChar_eq (h : lowerChar c = lowerChar d) :
    c = d ∨ TellsCase c ∧ TellsCase d := by
  have hlong : lowerChar '\u0130' = ['i', '\u0307'] := by decide
  rcases lowerChar_cases c with hc | rfl | ⟨x, hc, hletter, hsmall⟩
  · rcases lowerChar_cases d with hd | rfl | ⟨y, hd, hletter', hsmall'⟩
    · rw [hc, hd] at h
      exact .inl (List.singleton_inj.mp h)
    · rw [hc, hlong] at h
      cases h
    · rw [hc, hd, List.singleton_inj] at h
      exact .inr ⟨h ▸ hsmall', hletter'⟩
  · rcases lowerChar_cases d with hd | rfl | ⟨y, hd, _⟩
    · rw [hlong, hd] at h
      cases h
    · exact .inl rfl
    · rw [hlong, hd] at h
      cases h
  · rcases lowerChar_cases d with hd | rfl | ⟨y, hd, hletter', _⟩
    · rw [hc, hd, List.singleton_inj] at h
      exact .inr ⟨hletter, h ▸ hsmall⟩
    · rw [hc, hlong] at h
      cases h
    · exact .inr ⟨hletter, hletter'⟩

end Tables

/-! ## §2  Texts with the same lower case, character by character -/

section Texts

variable {before before' cs ds : List Char} {c d : Char}

theorem leadsToCased_cons (c : Char) (cs : List Char) :
    leadsToCased (c :: cs) = if isCaseIgnorable c then leadsToCased cs else isCased c := by
  by_cases h : isCaseIgnorable c = true
  · rw [if_pos h, leadsToCased, List.dropWhile_cons_of_pos h, leadsToCased]
  · rw [if_neg h, leadsToCased, List.dropWhile_cons_of_neg h]

theorem leadsToCased_congr (h : cs.map lowerChar = ds.map lowerChar) :
    leadsToCased cs = leadsToCased ds := by
  induction cs generalizing ds with
  | nil =>
      rw [List.map_nil, eq_comm, List.map_eq_nil_iff] at h
      rw [h]
  | cons c cs ih =>
      obtain ⟨d, ds, rfl, hd, hds⟩ := List.map_eq_cons_iff.mp h.symm
      rw [leadsToCased_cons, leadsToCased_cons, ih hds.symm]
      rcases tellsCase_of_lowerChar_eq hd with rfl | ⟨hletter, hletter'⟩
      · rfl
      · rw [hletter.seen, hletter'.seen, hletter.cased, hletter'.cased]

theorem endsWord_congr (hbefore : before.map lowerChar = before'.map lowerChar)
    (h : cs.map lowerChar = ds.map lowerChar) : endsWord before cs = endsWord before' ds := by
  rw [endsWord, endsWord, leadsToCased_congr hbefore, leadsToCased_congr h]

/-- At the place `i` of a text behind `before`, which runs backwards, a capital sigma ends a
word. -/
structure FinalSigma (before cs : List Char) (i : Nat) : Prop where
  capital : cs[i]? = some '\u03A3'
  final : endsWord ((cs.take i).reverse ++ before) (cs.drop (i + 1)) = true

/-- Where a capital sigma ends a word in `cs`, there is one in `ds`, too. -/
def SigmasKept (before cs ds : List Char) : Prop :=
  ∀ i, FinalSigma before cs i → ds[i]? = some '\u03A3'

theorem finalSigma_zero :
    FinalSigma before (c :: cs) 0 ↔ c = '\u03A3' ∧ endsWord before cs = true := by
  constructor
  · rintro ⟨hcapital, hfinal⟩
    exact ⟨Option.some.inj hcapital, hfinal⟩
  · rintro ⟨rfl, hfinal⟩
    exact ⟨rfl, hfinal⟩

theorem finalSigma_succ (i : Nat) :
    FinalSigma before (c :: cs) (i + 1) ↔ FinalSigma (c :: before) cs i := by
  have hsame : ((c :: cs).take (i + 1)).reverse ++ before =
      (cs.take i).reverse ++ c :: before := by
    simp
  constructor
  · rintro ⟨hcapital, hfinal⟩
    exact ⟨hcapital, hsame ▸ hfinal⟩
  · rintro ⟨hcapital, hfinal⟩
    exact ⟨hcapital, hsame ▸ hfinal⟩

theorem sigmasKept_cons : SigmasKept before (c :: cs) (d :: ds) ↔
    (c = '\u03A3' → endsWord before cs = true → d = '\u03A3') ∧
      SigmasKept (c :: before) cs ds := by
  constructor
  · intro h
    constructor
    · intro hc hfinal
      exact Option.some.inj (h 0 (finalSigma_zero.mpr ⟨hc, hfinal⟩))
    · intro i hi
      exact h (i + 1) ((finalSigma_succ i).mpr hi)
  · rintro ⟨hhead, hrest⟩ i hi
    cases i with
    | zero =>
        obtain ⟨hc, hfinal⟩ := finalSigma_zero.mp hi
        exact congrArg some (hhead hc hfinal)
    | succ i => exact hrest i ((finalSigma_succ i).mp hi)

theorem lowerChar_sigma : lowerChar '\u03A3' = ['\u03C3'] := by
  rfl

theorem length_lowerAt (before : List Char) (c : Char) (after : List Char) :
    (lowerAt before c after).length = (lowerChar c).length := by
  unfold lowerAt
  split
  · rename_i hsigma
    rw [hsigma, lowerChar_sigma]
    split <;> rfl
  · rfl

/-- A capital sigma has the form of a small one unless it ends a word. -/
theorem lowerAt_eq_small_iff (after : List Char) :
    lowerAt before '\u03A3' after = lowerChar '\u03A3' ↔ endsWord before after = false := by
  rw [lowerAt, if_pos rfl, lowerChar_sigma]
  cases endsWord before after <;> decide

theorem lowerAt_eq_iff (hbefore : before.map lowerChar = before'.map lowerChar)
    (hcd : lowerChar c = lowerChar d) (h : cs.map lowerChar = ds.map lowerChar) :
    lowerAt before c cs = lowerAt before' d ds ↔
      (c = '\u03A3' → endsWord before cs = true → d = '\u03A3') ∧
        (d = '\u03A3' → endsWord before' ds = true → c = '\u03A3') := by
  have hends := endsWord_congr hbefore h
  have hother : ∀ {before after e}, e ≠ '\u03A3' → lowerAt before e after = lowerChar e :=
    fun he => if_neg he
  by_cases hc : c = '\u03A3'
  · by_cases hd : d = '\u03A3'
    · subst hc hd
      rw [lowerAt, lowerAt, hends]
      simp
    · subst hc
      rw [hother hd, ← hcd, lowerAt_eq_small_iff]
      simp [hd]
  · by_cases hd : d = '\u03A3'
    · subst hd
      rw [hother hc, hcd, eq_comm, lowerAt_eq_small_iff]
      simp [hc]
    · rw [hother hc, hother hd]
      simp [hc, hd, hcd]

theorem lowerFrom_eq_iff (hbefore : before.map lowerChar = before'.map lowerChar)
    (h : cs.map lowerChar = ds.map lowerChar) :
    lowerFrom before cs = lowerFrom before' ds ↔
      SigmasKept before cs ds ∧ SigmasKept before' ds cs := by
  induction cs generalizing before before' ds with
  | nil =>
      rw [List.map_nil, eq_comm, List.map_eq_nil_iff] at h
      subst h
      have hnone : ∀ before, SigmasKept before [] [] := fun _ i hi => hi.capital
      simp [lowerFrom, hnone]
  | cons c cs ih =>
      obtain ⟨d, ds, rfl, hd, hds⟩ := List.map_eq_cons_iff.mp h.symm
      have hcons : (c :: before).map lowerChar = (d :: before').map lowerChar := by
        rw [List.map_cons, List.map_cons, hd, hbefore]
      have hlength : (lowerAt before c cs).length = (lowerAt before' d ds).length := by
        rw [length_lowerAt, length_lowerAt, hd]
      have happend : lowerFrom before (c :: cs) = lowerFrom before' (d :: ds) ↔
          lowerAt before c cs = lowerAt before' d ds ∧
            lowerFrom (c :: before) cs = lowerFrom (d :: before') ds := by
        constructor
        · exact fun heq => List.append_inj heq hlength
        · rintro ⟨hhead, hrest⟩
          rw [lowerFrom, lowerFrom, hhead, hrest]
      rw [happend, lowerAt_eq_iff hbefore hd.symm hds.symm, ih hcons hds.symm, sigmasKept_cons,
        sigmasKept_cons]
      exact and_and_and_comm

/-- **Texts with the same lower case, character by character, have the same lower case as a whole if
and only if a capital sigma that ends a word in one of them is a capital sigma in the other.** -/
theorem lowercase_eq_iff_sigmasKept (h : cs.map lowerChar = ds.map lowerChar) :
    lowercase cs = lowercase ds ↔ SigmasKept [] cs ds ∧ SigmasKept [] ds cs := by
  rw [lowercase_eq, lowercase_eq]
  exact lowerFrom_eq_iff rfl h

end Texts

end BuildCondition.Text
