import BuildCondition.Text.Cut

/-!
# Cutting and what follows

A text is cut where a run of accepted characters ends or where a mark stands. Either way the cut
depends on nothing behind it, apart from the character that ends the run.
-/

namespace BuildCondition.Text

variable {p : Char → Bool} {cs rest : List Char}

/-- The text does not start with an accepted character. -/
def Stops (p : Char → Bool) (rest : List Char) : Prop :=
  ∀ c ∈ rest.head?, p c = false

instance : Decidable (Stops p rest) :=
  decidable_of_iff (rest.head?.all (fun c => !p c) = true) (by simp [Stops, Option.all_eq_true])

theorem stops_nil : Stops p [] := by
  intro c hc
  cases hc

theorem stops_cons {c : Char} (h : p c = false) : Stops p (c :: rest) := by
  intro d hd
  cases hd
  exact h

theorem Stops.head {c : Char} (h : Stops p (c :: rest)) : p c = false :=
  h c rfl

theorem stops_dropWhile : Stops p (cs.dropWhile p) := by
  intro c hc
  have := List.head?_dropWhile_not p cs
  rw [Option.mem_def.mp hc] at this
  simpa using this

theorem all_takeWhile : ∀ c ∈ cs.takeWhile p, p c = true := by
  intro c hc
  simpa using List.all_eq_true.mp List.all_takeWhile c hc

theorem takeWhile_append_stops (h : ∀ c ∈ cs, p c = true) (hrest : Stops p rest) :
    (cs ++ rest).takeWhile p = cs := by
  rw [List.takeWhile_append_of_pos h]
  cases rest with
  | nil => simp
  | cons c rest => simp [hrest.head]

theorem dropWhile_append_stops (h : ∀ c ∈ cs, p c = true) (hrest : Stops p rest) :
    (cs ++ rest).dropWhile p = rest := by
  rw [List.dropWhile_append_of_pos h]
  cases rest with
  | nil => rfl
  | cons c rest => simp [hrest.head]

theorem drop_length_takeWhile (p : Char → Bool) (cs : List Char) :
    cs.drop (cs.takeWhile p).length = cs.dropWhile p :=
  calc cs.drop (cs.takeWhile p).length
      = (cs.takeWhile p ++ cs.dropWhile p).drop (cs.takeWhile p).length := by
        rw [List.takeWhile_append_dropWhile]
    _ = cs.dropWhile p := List.drop_left

/-- A cut is at the first mark. -/
theorem cutAt?_eq_some {mark : Char} {inside after : List Char}
    (h : cutAt? mark cs = some (inside, after)) :
    cs = inside ++ mark :: after ∧ ∀ c ∈ inside, c ≠ mark := by
  unfold cutAt? at h
  split at h
  · cases h
  · rename_i c after' hdrop
    cases h
    have hmark : c = mark := by
      have : Stops (· != mark) (c :: after) := hdrop ▸ stops_dropWhile
      simpa using this.head
    refine ⟨?_, fun d hd => by simpa using all_takeWhile d hd⟩
    subst hmark
    rw [← hdrop, List.takeWhile_append_dropWhile]

theorem cutAt?_append {mark : Char} {inside : List Char} (h : ∀ c ∈ inside, c ≠ mark)
    (after : List Char) : cutAt? mark (inside ++ mark :: after) = some (inside, after) := by
  have hinside : ∀ c ∈ inside, (c != mark) = true := fun c hc => by simpa using h c hc
  have hstops : Stops (· != mark) (mark :: after) := stops_cons (by simp)
  rw [cutAt?, dropWhile_append_stops hinside hstops, takeWhile_append_stops hinside hstops]

theorem cutAt?_of_not_mem {mark : Char} (h : mark ∉ cs) : cutAt? mark cs = none := by
  have hall : ∀ c ∈ cs, (c != mark) = true := fun c hc => bne_iff_ne.mpr (ne_of_mem_of_not_mem hc h)
  have hnone := dropWhile_append_stops hall (stops_nil (p := (· != mark)))
  rw [List.append_nil] at hnone
  rw [cutAt?, hnone]

theorem takeWhile_of_cutAt? {mark : Char} (h : cutAt? mark cs = none) :
    cs.takeWhile (· != mark) = cs := by
  unfold cutAt? at h
  split at h
  · rename_i hdrop
    have hsplit := List.takeWhile_append_dropWhile (p := (· != mark)) (l := cs)
    rwa [hdrop, List.append_nil] at hsplit
  · cases h

theorem fields_eq_splitOn (mark : Char) (cs : List Char) : fields mark cs = cs.splitOn mark := by
  induction cs with
  | nil => rfl
  | cons c cs ih =>
      show (if c = mark then [] :: fields mark cs else consField c (fields mark cs)) = _
      rw [ih]
      by_cases hc : c = mark
      · rw [if_pos hc, hc]
        simp [List.splitOn, List.splitOnP_cons_eq_if_modifyHead]
      · rw [if_neg hc]
        obtain ⟨f, fs, hfields⟩ :=
          List.exists_cons_of_ne_nil (List.splitOnP_ne_nil (fun d => d == mark) cs)
        simp [List.splitOn, List.splitOnP_cons_eq_if_modifyHead, hc, hfields, consField]

/-- Fields that are joined with the mark are found again, if the mark is in none of them. -/
theorem fields_intercalate {mark : Char} {gs : List (List Char)} (hmark : ∀ g ∈ gs, mark ∉ g)
    (hne : gs ≠ []) : fields mark ([mark].intercalate gs) = gs := by
  rw [fields_eq_splitOn, List.splitOn_intercalate mark hmark hne]

/-- What is joined with the mark consists of the fields and the mark. -/
theorem mem_of_mem_intercalate {mark c : Char} {gs : List (List Char)}
    (h : c ∈ [mark].intercalate gs) : c = mark ∨ ∃ g ∈ gs, c ∈ g := by
  induction gs with
  | nil => cases h
  | cons g gs ih =>
      cases gs with
      | nil => exact .inr ⟨g, List.mem_cons_self, by simpa [List.intercalate] using h⟩
      | cons g' gs =>
          have hsplit : c ∈ g ∨ c = mark ∨ c ∈ [mark].intercalate (g' :: gs) := by
            simpa [List.intercalate] using h
          rcases hsplit with hg | hmark | hrest
          · exact .inr ⟨g, List.mem_cons_self, hg⟩
          · exact .inl hmark
          · exact (ih hrest).imp id fun ⟨g, hg, hc⟩ => ⟨g, List.mem_cons_of_mem _ hg, hc⟩

theorem mem_intercalate_self {mark : Char} {gs : List (List Char)} (h : 1 < gs.length) :
    mark ∈ [mark].intercalate gs := by
  match gs, h with
  | g :: g' :: gs, _ => simp [List.intercalate]

/-- A single field has no mark to be joined with. -/
theorem intercalate_eq_flatten {mark : Char} {gs : List (List Char)} (h : gs.length ≤ 1) :
    [mark].intercalate gs = gs.flatten := by
  cases gs with
  | nil => rfl
  | cons g gs =>
      obtain rfl := List.eq_nil_of_length_eq_zero (Nat.le_zero.mp (Nat.le_of_succ_le_succ h))
      rfl

/-- What is joined in two parts has a separator between them. -/
theorem intercalate_append {sep : List Char} {fs gs : List (List Char)} (hfs : fs ≠ [])
    (hgs : gs ≠ []) :
    sep.intercalate (fs ++ gs) = sep.intercalate fs ++ (sep ++ sep.intercalate gs) := by
  induction fs with
  | nil => exact absurd rfl hfs
  | cons f fs ih =>
      cases fs with
      | nil =>
          obtain ⟨g, gs, rfl⟩ := List.exists_cons_of_ne_nil hgs
          simp [List.intercalate_cons_cons]
      | cons f' fs =>
          have hrest := ih (List.cons_ne_nil f' fs)
          rw [List.cons_append] at hrest
          rw [List.cons_append, List.cons_append, List.intercalate_cons_cons, hrest,
            List.intercalate_cons_cons]
          simp only [List.append_assoc]

/-- What stands at a place of a text, and behind it. -/
theorem of_drop_eq_cons {n : Nat} {c : Char} (h : cs.drop n = c :: rest) :
    cs[n]? = some c ∧ cs.drop (n + 1) = rest := by
  constructor
  · rw [← List.head?_drop, h]
    rfl
  · rw [← List.drop_drop, h]
    rfl

/-- A text starts with another one if it is that one and something behind it. -/
theorem after?_eq_some_iff {start cs rest : List Char} :
    after? start cs = some rest ↔ cs = start ++ rest := by
  induction start generalizing cs with
  | nil => simp [after?]
  | cons a start ih =>
      cases cs with
      | nil => simp [after?]
      | cons c cs =>
          by_cases hc : a = c
          · simp [after?, hc, ih]
          · simp [after?, hc, Ne.symm hc]

theorem runLength_add (accepts : Char → List Char → Bool) (k : Nat) (cs : List Char) :
    runLength accepts k cs = k + runLength accepts 0 cs := by
  induction cs generalizing k with
  | nil => rfl
  | cons c cs ih =>
      cases h : accepts c cs with
      | true =>
          simp only [runLength, if_pos h]
          rw [ih (k + 1), ih (0 + 1)]
          omega
      | false => simp [runLength, h]

/-- Each character of `run` is accepted in front of what follows it, and the first one of `rest` is
not. -/
structure IsRun (accepts : Char → List Char → Bool) (run rest : List Char) : Prop where
  accepted : ∀ front c back, run = front ++ c :: back → accepts c (back ++ rest) = true
  ends : ∀ c cs, rest = c :: cs → accepts c cs = false

section Runs

variable {accepts : Char → List Char → Bool} {run : List Char}

theorem IsRun.cons {c : Char} (h : IsRun accepts run rest) (hc : accepts c (run ++ rest) = true) :
    IsRun accepts (c :: run) rest where
  accepted := by
    intro front d back hsplit
    cases front with
    | nil =>
        obtain ⟨rfl, rfl⟩ := List.cons.inj hsplit
        exact hc
    | cons e front => exact h.accepted front d back (List.cons.inj hsplit).2
  ends := h.ends

theorem IsRun.tail {c : Char} (h : IsRun accepts (c :: run) rest) : IsRun accepts run rest where
  accepted := fun front d back hsplit => h.accepted (c :: front) d back (by rw [hsplit]; rfl)
  ends := h.ends

theorem IsRun.runLength_eq (h : IsRun accepts run rest) :
    runLength accepts 0 (run ++ rest) = run.length := by
  induction run with
  | nil =>
      cases rest with
      | nil => rfl
      | cons c cs => simp [runLength, h.ends c cs rfl]
  | cons c run ih =>
      have hc : accepts c (run ++ rest) = true := h.accepted [] c run rfl
      rw [List.cons_append, runLength, if_pos hc, runLength_add, ih h.tail, List.length_cons,
        Nat.zero_add, Nat.add_comm]

theorem exists_eq_run_append (accepts : Char → List Char → Bool) (cs : List Char) :
    ∃ run rest, cs = run ++ rest ∧ IsRun accepts run rest := by
  induction cs with
  | nil => exact ⟨[], [], rfl, by simp, by simp⟩
  | cons c cs ih =>
      cases hc : accepts c cs with
      | true =>
          obtain ⟨run, rest, rfl, hrun⟩ := ih
          exact ⟨c :: run, rest, rfl, hrun.cons hc⟩
      | false =>
          refine ⟨[], c :: cs, rfl, by simp, ?_⟩
          rintro d ds hsplit
          cases hsplit
          exact hc

end Runs

end BuildCondition.Text
