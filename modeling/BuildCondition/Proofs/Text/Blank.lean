import BuildCondition.Proofs.Text.Cut
import BuildCondition.Text.Blank

/-!
# Blanks around a text

A text is what trimming leaves of it, with blanks on both sides. What trimming leaves is bare:
it neither starts nor ends with a blank. There is only one bare text between blanks, so that
whatever is found there is what trimming leaves.
-/

namespace BuildCondition.Text

variable {cs w w' : List Char}

/-- A text that neither starts nor ends with a blank. -/
structure Bare (cs : List Char) : Prop where
  front : Stops isBlank cs
  back : Stops isBlank cs.reverse

instance : Decidable (Bare cs) :=
  decidable_of_iff (Stops isBlank cs ∧ Stops isBlank cs.reverse)
    ⟨fun h => ⟨h.1, h.2⟩, fun h => ⟨h.front, h.back⟩⟩

theorem trimStart_of_stops (h : Stops isBlank cs) : trimStart cs = cs := by
  have hdrop := dropWhile_append_stops (List.forall_mem_nil _) h
  rwa [List.nil_append] at hdrop

theorem trimEnd_append (hw : ∀ c ∈ w, isBlank c = true) (h : Stops isBlank cs.reverse) :
    trimEnd (cs ++ w) = cs := by
  have hw' : ∀ c ∈ w.reverse, isBlank c = true := fun c hc => hw c (List.mem_reverse.mp hc)
  rw [trimEnd, List.reverse_append, dropWhile_append_stops hw' h, List.reverse_reverse]

theorem exists_eq_trimEnd_append (cs : List Char) :
    ∃ w, (∀ c ∈ w, isBlank c = true) ∧ cs = trimEnd cs ++ w := by
  refine ⟨(cs.reverse.takeWhile isBlank).reverse, ?_, ?_⟩
  · intro c hc
    exact all_takeWhile c (List.mem_reverse.mp hc)
  · rw [trimEnd, ← List.reverse_append, List.takeWhile_append_dropWhile, List.reverse_reverse]

theorem bare_trim (cs : List Char) : Bare (trim cs) where
  front := by
    have hstart : Stops isBlank (trimStart cs) := stops_dropWhile
    obtain ⟨w, _, heq⟩ := exists_eq_trimEnd_append (trimStart cs)
    rw [trim]
    cases hrest : trimEnd (trimStart cs) with
    | nil => exact stops_nil
    | cons c rest =>
        rw [heq, hrest] at hstart
        exact stops_cons hstart.head
  back := by
    rw [trim, trimEnd, List.reverse_reverse]
    exact stops_dropWhile

/-- What trimming leaves stands between blanks. -/
theorem exists_eq_trim (cs : List Char) :
    ∃ w w', (∀ c ∈ w, isBlank c = true) ∧ (∀ c ∈ w', isBlank c = true) ∧
      cs = w ++ (trim cs ++ w') := by
  obtain ⟨w', hw', heq⟩ := exists_eq_trimEnd_append (trimStart cs)
  refine ⟨cs.takeWhile isBlank, w', all_takeWhile, hw', ?_⟩
  rw [trim, ← heq, trimStart, List.takeWhile_append_dropWhile]

/-- A text that does not end in a blank has blanks in front only. -/
theorem exists_eq_append_trim (h : Stops isBlank cs.reverse) :
    ∃ w, (∀ c ∈ w, isBlank c = true) ∧ cs = w ++ trim cs := by
  obtain ⟨w, w', hw, hw', heq⟩ := exists_eq_trim cs
  cases hreverse : w'.reverse with
  | nil =>
      rw [List.reverse_eq_nil_iff.mp hreverse, List.append_nil] at heq
      exact ⟨w, hw, heq⟩
  | cons c more =>
      have hc : isBlank c = true := hw' c (List.mem_reverse.mp (by simp [hreverse]))
      rw [heq] at h
      simp only [List.reverse_append, hreverse, List.cons_append] at h
      rw [h.head] at hc
      cases hc

/-- A bare text between blanks is what trimming leaves. -/
theorem trim_append (hw : ∀ c ∈ w, isBlank c = true) (hw' : ∀ c ∈ w', isBlank c = true)
    (h : Bare cs) : trim (w ++ (cs ++ w')) = cs := by
  rw [trim, trimStart, List.dropWhile_append_of_pos hw]
  cases cs with
  | nil =>
      have hnone := dropWhile_append_stops hw' (stops_nil (p := isBlank))
      rw [List.append_nil] at hnone
      rw [List.nil_append, hnone]
      rfl
  | cons c cs =>
      rw [List.cons_append, List.dropWhile_cons_of_neg (by rw [h.front.head]; decide),
        ← List.cons_append]
      exact trimEnd_append hw' h.back

theorem trim_of_bare (h : Bare cs) : trim cs = cs := by
  have htrim := trim_append (List.forall_mem_nil _) (List.forall_mem_nil _) h
  rwa [List.append_nil] at htrim

theorem bare_of_no_blanks (h : ∀ c ∈ cs, isBlank c = false) : Bare cs where
  front := fun c hc => h c (List.mem_of_mem_head? hc)
  back := fun c hc => h c (List.mem_reverse.mp (List.mem_of_mem_head? hc))

theorem trim_trim (cs : List Char) : trim (trim cs) = trim cs :=
  trim_of_bare (bare_trim cs)

end BuildCondition.Text
