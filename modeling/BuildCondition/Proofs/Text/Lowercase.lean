import BuildCondition.Proofs.Text.Blank
import BuildCondition.Proofs.Text.Range
import BuildCondition.Text.Lowercase

/-!
# Lower case and blanks

Names are told apart by their lower case forms, and some are trimmed before. It does not matter
which is done first: a blank is its own lower case form, no other character has one with a blank in
it (§1), and blanks around a text do not change how its last letter is written (§2). Names that
differ in the case of ASCII letters only have the same form (§3).
-/

namespace BuildCondition.Text

variable {c : Char} {cs w w' before after : List Char}

/-! ## §1  Characters -/

theorem lowerCode_cases (runs : List (Nat × Nat × Nat × Int)) (n : Nat) :
    lowerCode runs n = n ∨ ∃ r ∈ runs, r.1 ≤ n ∧ n ≤ r.2.1 ∧ (n - r.1) % r.2.2.1 = 0 ∧
      lowerCode runs n = (n + r.2.2.2).toNat := by
  induction runs with
  | nil => exact .inl rfl
  | cons r runs ih =>
      obtain ⟨first, last, step, shift⟩ := r
      by_cases h : first ≤ n ∧ n ≤ last ∧ (n - first) % step = 0
      · exact .inr ⟨_, List.mem_cons_self, h.1, h.2.1, h.2.2, if_pos h⟩
      · have hnext : lowerCode ((first, last, step, shift) :: runs) n = lowerCode runs n := if_neg h
        rw [hnext]
        rcases ih with hsame | ⟨r, hr, hfound⟩
        · exact .inl hsame
        · exact .inr ⟨r, List.mem_cons_of_mem _ hr, hfound⟩

theorem ascending_blankRanges : Ascending blankRanges :=
  ascending_of_isChain (by decide)

/-- What has to be tried on the tables, all of it at once: they are in order, there is no blank in a
run of capitals or where it is mapped to, blanks have no case, and neither they nor the letters of
ASCII are looked through. -/
theorem tables_tried :
    (casedRanges.IsChain (fun r s => r.1 < s.1) ∧
      caseIgnorableRanges.IsChain fun r s => r.1 < s.1) ∧
    (∀ r ∈ lowerRuns, avoids r.1 r.2.1 blankRanges = true ∧
      avoids (r.1 + r.2.2.2).toNat (r.2.1 + r.2.2.2).toNat blankRanges = true) ∧
    (blankRanges.all (fun r => avoids r.1 r.2 casedRanges) = true ∧
      blankRanges.all (fun r => avoids r.1 r.2 caseIgnorableRanges) = true) ∧
    avoids 65 90 caseIgnorableRanges = true ∧ avoids 97 122 caseIgnorableRanges = true := by
  decide +kernel

/-- There is no blank in a run of capitals, nor where it is mapped to. -/
theorem lowerRuns_avoid_blanks {r : Nat × Nat × Nat × Int} (hr : r ∈ lowerRuns) :
    avoids r.1 r.2.1 blankRanges = true ∧
      avoids (r.1 + r.2.2.2).toNat (r.2.1 + r.2.2.2).toNat blankRanges = true :=
  tables_tried.2.1 r hr

theorem ascending_casedRanges : Ascending casedRanges :=
  ascending_of_isChain tables_tried.1.1

theorem ascending_caseIgnorableRanges : Ascending caseIgnorableRanges :=
  ascending_of_isChain tables_tried.1.2

/-- What holds of each capital of ASCII and its small letter, and of every character and itself, holds
of every character and its small form. -/
theorem toLower_cases {P : Char → Char → Prop}
    (hcapital : ∀ n < 26, P (Char.ofNat (65 + n)) (Char.ofNat (97 + n))) (hsame : ∀ c, P c c)
    (c : Char) : P c c.toLower := by
  by_cases h : 65 ≤ c.toNat ∧ c.toNat ≤ 90
  · have hsmall : ∀ n < 26, (Char.ofNat (65 + n)).toLower = Char.ofNat (97 + n) := by decide
    obtain ⟨n, hn, rfl⟩ : ∃ n < 26, c = Char.ofNat (65 + n) :=
      ⟨c.toNat - 65, by omega, by rw [Nat.add_sub_cancel' h.1, Char.ofNat_toNat]⟩
    rw [hsmall n hn]
    exact hcapital n hn
  · have hkept : c.toLower = c := by
      unfold Char.toLower
      exact dif_neg h
    rw [hkept]
    exact hsame c

theorem lowerChar_of_isBlank (h : isBlank c = true) : lowerChar c = [c] := by
  have hcode : lowerCode lowerRuns c.toNat = c.toNat := by
    rcases lowerCode_cases lowerRuns c.toNat with hsame | ⟨r, hr, hfirst, hlast, _⟩
    · exact hsame
    · have hnone : isBlank c = false :=
        inRanges_eq_false_of_avoids ascending_blankRanges (lowerRuns_avoid_blanks hr).1 hfirst hlast
      rw [hnone] at h
      cases h
  unfold lowerChar
  split
  · rw [toLower_cases (P := fun c d => isBlank c = true → d = c) (by decide) (fun _ _ => rfl) c h]
  · split
    · rename_i hdotted
      rw [hdotted] at h
      exact absurd h (by decide)
    · rw [hcode, Char.ofNat_toNat]

/-- A number that is no code point stands for the character with the code 0. -/
theorem toNat_ofNat_cases (n : Nat) : (Char.ofNat n).toNat = n ∨ (Char.ofNat n).toNat = 0 := by
  rw [Char.ofNat]
  by_cases h : n.isValidChar
  · rw [dif_pos h]
    exact .inl rfl
  · rw [dif_neg h]
    exact .inr rfl

theorem not_isBlank_lowerCode (h : isBlank c = false) :
    isBlank (Char.ofNat (lowerCode lowerRuns c.toNat)) = false := by
  rcases lowerCode_cases lowerRuns c.toNat with hsame | ⟨r, hr, hfirst, hlast, _, hfound⟩
  · rw [hsame, Char.ofNat_toNat]
    exact h
  · rw [hfound]
    rcases toNat_ofNat_cases (c.toNat + r.2.2.2).toNat with hsame | hzero
    · exact inRanges_eq_false_of_avoids ascending_blankRanges (lowerRuns_avoid_blanks hr).2
        (by omega) (by omega)
    · have hnone : avoids 0 0 blankRanges = true := by decide
      exact inRanges_eq_false_of_avoids ascending_blankRanges hnone (Nat.zero_le _)
        (Nat.le_of_eq hzero)

theorem not_isBlank_of_mem_lowerChar {d : Char} (h : isBlank c = false) (hd : d ∈ lowerChar c) :
    isBlank d = false := by
  unfold lowerChar at hd
  split at hd
  · rw [List.mem_singleton.mp hd]
    exact toLower_cases (P := fun c d => isBlank c = false → isBlank d = false)
      (by decide) (fun _ => id) c h
  · split at hd
    · rcases List.mem_cons.mp hd with rfl | hd
      · decide
      · rw [List.mem_singleton.mp hd]
        decide
    · rw [List.mem_singleton.mp hd]
      exact not_isBlank_lowerCode h

theorem lowerChar_ne_nil (c : Char) : lowerChar c ≠ [] := by
  unfold lowerChar
  split
  · exact List.cons_ne_nil _ _
  · split <;> exact List.cons_ne_nil _ _

theorem lowerAt_of_isBlank (h : isBlank c = true) : lowerAt before c after = [c] := by
  have hsigma : c ≠ '\u03A3' := by
    rintro rfl
    exact absurd h (by decide)
  rw [lowerAt, if_neg hsigma]
  exact lowerChar_of_isBlank h

theorem not_isBlank_of_mem_lowerAt {d : Char} (h : isBlank c = false)
    (hd : d ∈ lowerAt before c after) : isBlank d = false := by
  unfold lowerAt at hd
  split at hd
  · split at hd <;> rw [List.mem_singleton.mp hd] <;> decide
  · exact not_isBlank_of_mem_lowerChar h hd

theorem lowerAt_ne_nil (before : List Char) (c : Char) (after : List Char) :
    lowerAt before c after ≠ [] := by
  unfold lowerAt
  split
  · split <;> exact List.cons_ne_nil _ _
  · exact lowerChar_ne_nil c

/-! ## §2  Texts -/

/-- The lower case of what follows `before`, which runs backwards. -/
def lowerFrom (before : List Char) : List Char → List Char
  | [] => []
  | c :: cs => lowerAt before c cs ++ lowerFrom (c :: before) cs

theorem lowerOnto_eq (done before cs : List Char) :
    lowerOnto done before cs = done.reverse ++ lowerFrom before cs := by
  induction cs generalizing done before with
  | nil => exact (List.append_nil _).symm
  | cons c cs ih =>
      show lowerOnto _ (c :: before) cs = _
      rw [ih, List.reverseAux_eq, List.reverse_append, List.reverse_reverse, List.append_assoc,
        lowerFrom]

theorem lowercase_eq (cs : List Char) : lowercase cs = lowerFrom [] cs :=
  lowerOnto_eq [] [] cs

theorem leadsToCased_append (hw : ∀ c ∈ w, isBlank c = true) :
    leadsToCased (cs ++ w) = leadsToCased cs := by
  have hplain : ∀ c, isBlank c = true → isCaseIgnorable c = false ∧ isCased c = false := by
    intro c hc
    obtain ⟨_, _, ⟨hcased, hignorable⟩, _⟩ := tables_tried
    constructor
    · exact inRanges_eq_false_of_apart ascending_caseIgnorableRanges hignorable hc
    · exact inRanges_eq_false_of_apart ascending_casedRanges hcased hc
  unfold leadsToCased
  rw [List.dropWhile_append]
  by_cases hnil : (cs.dropWhile isCaseIgnorable).isEmpty = true
  · -- all of `cs` is passed over, and then comes a blank or nothing
    rw [if_pos hnil, List.isEmpty_iff.mp hnil]
    cases w with
    | nil => rfl
    | cons c w =>
        obtain ⟨hignorable, hcased⟩ := hplain c (hw c List.mem_cons_self)
        rw [List.dropWhile_cons_of_neg (by rw [hignorable]; decide)]
        exact hcased
  · obtain ⟨c, rest, hcons⟩ := List.exists_cons_of_ne_nil (mt List.isEmpty_iff.mpr hnil)
    rw [if_neg hnil, hcons, List.cons_append]

theorem lowerFrom_behind_blanks (hw : ∀ c ∈ w, isBlank c = true) :
    lowerFrom (before ++ w) cs = lowerFrom before cs := by
  induction cs generalizing before with
  | nil => rfl
  | cons c cs ih =>
      have hsame : lowerAt (before ++ w) c cs = lowerAt before c cs := by
        rw [lowerAt, endsWord, leadsToCased_append hw]
        rfl
      rw [lowerFrom, hsame, ← List.cons_append, ih, lowerFrom]

theorem lowerFrom_blanks (hw : ∀ c ∈ w, isBlank c = true) : lowerFrom before w = w := by
  induction w generalizing before with
  | nil => rfl
  | cons c w ih =>
      obtain ⟨hc, hw⟩ := List.forall_mem_cons.mp hw
      rw [lowerFrom, lowerAt_of_isBlank hc, ih hw, List.singleton_append]

theorem lowerFrom_blanks_append (hw : ∀ c ∈ w, isBlank c = true) :
    lowerFrom before (w ++ cs) = w ++ lowerFrom (w.reverse ++ before) cs := by
  induction w generalizing before with
  | nil => rfl
  | cons c w ih =>
      obtain ⟨hc, hw⟩ := List.forall_mem_cons.mp hw
      rw [List.cons_append, lowerFrom, lowerAt_of_isBlank hc, ih hw, List.reverse_cons,
        List.append_assoc, List.singleton_append, List.singleton_append, List.cons_append]

theorem lowerFrom_append_blanks (hw : ∀ c ∈ w, isBlank c = true) :
    lowerFrom before (cs ++ w) = lowerFrom before cs ++ w := by
  induction cs generalizing before with
  | nil => exact lowerFrom_blanks hw
  | cons c cs ih =>
      have hsame : lowerAt before c (cs ++ w) = lowerAt before c cs := by
        rw [lowerAt, endsWord, leadsToCased_append hw]
        rfl
      rw [List.cons_append, lowerFrom, hsame, ih, lowerFrom, List.append_assoc]

/-- Blanks around a text are left as they are, and leave it as it is. -/
theorem lowercase_append (hw : ∀ c ∈ w, isBlank c = true) (hw' : ∀ c ∈ w', isBlank c = true) :
    lowercase (w ++ (cs ++ w')) = w ++ (lowercase cs ++ w') := by
  have hreverse : ∀ c ∈ w.reverse, isBlank c = true := fun c hc => hw c (List.mem_reverse.mp hc)
  rw [lowercase_eq, lowerFrom_blanks_append hw, List.append_nil, lowerFrom_append_blanks hw',
    ← List.nil_append w.reverse, lowerFrom_behind_blanks hreverse, lowercase_eq]

theorem stops_lowerFrom (h : Stops isBlank cs) : Stops isBlank (lowerFrom before cs) := by
  cases cs with
  | nil => exact stops_nil
  | cons c cs =>
      obtain ⟨d, more, hcons⟩ := List.exists_cons_of_ne_nil (lowerAt_ne_nil before c cs)
      rw [lowerFrom, hcons, List.cons_append]
      exact stops_cons (not_isBlank_of_mem_lowerAt h.head (hcons ▸ List.mem_cons_self))

theorem stops_reverse_lowerFrom (h : Stops isBlank cs.reverse) :
    Stops isBlank (lowerFrom before cs).reverse := by
  induction cs generalizing before with
  | nil => exact stops_nil
  | cons c cs ih =>
      rw [lowerFrom, List.reverse_append]
      cases cs with
      | nil =>
          intro d hd
          have hmem : d ∈ lowerAt before c [] := List.mem_reverse.mp (List.mem_of_mem_head? hd)
          exact not_isBlank_of_mem_lowerAt h.head hmem
      | cons e cs =>
          -- the last letter is written by what follows the first
          have hrest : Stops isBlank (e :: cs).reverse := by
            intro d hd
            exact h d (by
              rw [List.reverse_cons, List.head?_append, Option.mem_def.mp hd]
              rfl)
          obtain ⟨d, more, hcons⟩ : ∃ d more,
              (lowerFrom (c :: before) (e :: cs)).reverse = d :: more := by
            refine List.exists_cons_of_ne_nil (mt List.reverse_eq_nil_iff.mp ?_)
            rw [lowerFrom]
            exact List.append_ne_nil_of_left_ne_nil (lowerAt_ne_nil _ _ _) _
          rw [hcons, List.cons_append]
          exact stops_cons (hcons ▸ ih hrest).head

theorem Bare.lowercase (h : Bare cs) : Bare (lowercase cs) := by
  rw [lowercase_eq]
  exact ⟨stops_lowerFrom h.front, stops_reverse_lowerFrom h.back⟩

/-- **Trimming and lower case commute.** -/
theorem lowercase_trim (cs : List Char) : lowercase (trim cs) = trim (lowercase cs) := by
  obtain ⟨w, w', hw, hw', heq⟩ := exists_eq_trim cs
  have hbare : Bare (Text.lowercase (trim cs)) := (bare_trim cs).lowercase
  have hlower : Text.lowercase cs = w ++ (Text.lowercase (trim cs) ++ w') :=
    (congrArg Text.lowercase heq).trans (lowercase_append hw hw')
  rw [hlower, trim_append hw hw' hbare]

/-! ## §3  ASCII case -/

/-- A letter of ASCII. -/
def IsAsciiLetter (c : Char) : Prop :=
  65 ≤ c.toNat ∧ c.toNat ≤ 90 ∨ 97 ≤ c.toNat ∧ c.toNat ≤ 122

theorem isAsciiLetter_pair {n : Nat} (hn : n < 26) :
    IsAsciiLetter (Char.ofNat (65 + n)) ∧ IsAsciiLetter (Char.ofNat (97 + n)) := by
  have hcodes : ∀ n < 26, (Char.ofNat (65 + n)).toNat = 65 + n ∧
      (Char.ofNat (97 + n)).toNat = 97 + n := by decide
  obtain ⟨hcapital, hsmall⟩ := hcodes n hn
  constructor
  · exact .inl (by omega)
  · exact .inr (by omega)

theorem isCased_letter (h : IsAsciiLetter c) : isCased c = true := by
  rcases h with h | h
  · exact inRanges_of_mem List.mem_cons_self h.1 h.2
  · exact inRanges_of_mem (List.mem_cons_of_mem _ List.mem_cons_self) h.1 h.2

theorem isCaseIgnorable_letter (h : IsAsciiLetter c) : isCaseIgnorable c = false := by
  obtain ⟨_, _, _, hcapitals, hsmall⟩ := tables_tried
  rcases h with h | h
  · exact inRanges_eq_false_of_avoids ascending_caseIgnorableRanges hcapitals h.1 h.2
  · exact inRanges_eq_false_of_avoids ascending_caseIgnorableRanges hsmall h.1 h.2

/-- What is the same for all letters of ASCII is so for a capital and its small letter. -/
theorem toLower_congr {α : Type} {f : Char → α} {x : α} (h : ∀ c, IsAsciiLetter c → f c = x)
    (c : Char) : f c.toLower = f c := by
  refine toLower_cases (P := fun c d => f d = f c) (fun n hn => ?_) (fun _ => rfl) c
  obtain ⟨hcapital, hsmall⟩ := isAsciiLetter_pair hn
  rw [h _ hcapital, h _ hsmall]

theorem isCased_toLower (c : Char) : isCased c.toLower = isCased c :=
  toLower_congr (fun _ => isCased_letter) c

theorem isCaseIgnorable_toLower (c : Char) : isCaseIgnorable c.toLower = isCaseIgnorable c :=
  toLower_congr (fun _ => isCaseIgnorable_letter) c

theorem lowerChar_toLower (c : Char) : lowerChar c.toLower = lowerChar c :=
  toLower_cases (P := fun c d => lowerChar d = lowerChar c) (by decide) (fun _ => rfl) c

theorem toLower_eq_sigma_iff (c : Char) : c.toLower = '\u03A3' ↔ c = '\u03A3' :=
  toLower_cases (P := fun c d => d = '\u03A3' ↔ c = '\u03A3') (by decide)
    (fun _ => Iff.rfl) c

theorem leadsToCased_map_toLower (cs : List Char) :
    leadsToCased (cs.map Char.toLower) = leadsToCased cs := by
  have hignorable : isCaseIgnorable ∘ Char.toLower = isCaseIgnorable :=
    funext isCaseIgnorable_toLower
  unfold leadsToCased
  rw [List.dropWhile_map, hignorable]
  cases cs.dropWhile isCaseIgnorable with
  | nil => rfl
  | cons c cs => exact isCased_toLower c

theorem lowerAt_map_toLower (before after : List Char) (c : Char) :
    lowerAt (before.map Char.toLower) c.toLower (after.map Char.toLower) =
      lowerAt before c after := by
  rw [lowerAt, lowerAt, endsWord, endsWord, leadsToCased_map_toLower, leadsToCased_map_toLower,
    lowerChar_toLower]
  by_cases hsigma : c = '\u03A3'
  · rw [if_pos hsigma, if_pos ((toLower_eq_sigma_iff c).mpr hsigma)]
  · rw [if_neg hsigma, if_neg (mt (toLower_eq_sigma_iff c).mp hsigma)]

theorem lowerFrom_map_toLower (before cs : List Char) :
    lowerFrom (before.map Char.toLower) (cs.map Char.toLower) = lowerFrom before cs := by
  induction cs generalizing before with
  | nil => rfl
  | cons c cs ih =>
      rw [List.map_cons, lowerFrom, lowerAt_map_toLower, ← List.map_cons, ih, lowerFrom]

/-- Texts that differ in the case of ASCII letters only have one lower case form. -/
theorem lower_eq_of_map_toLower {s s' : String}
    (h : s.toList.map Char.toLower = s'.toList.map Char.toLower) : lower s = lower s' := by
  have hsame : ∀ cs, lowercase (cs.map Char.toLower) = lowercase cs := by
    intro cs
    rw [lowercase_eq, lowercase_eq]
    exact lowerFrom_map_toLower [] cs
  rw [lower, ← hsame, h, hsame, lower]

end BuildCondition.Text
