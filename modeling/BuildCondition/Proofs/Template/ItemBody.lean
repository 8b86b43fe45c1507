import BuildCondition.Proofs.Spacing
import BuildCondition.Template

/-!
# The body of an item list

What stands between the parentheses of an item list is the type of the items and, behind it, a
transform and a separator. The type may hold hyphens, and a transform begins with one. So how far
the type reaches depends on the character behind each hyphen (§1). It is the longest beginning made
of characters of names that no arrow stands in; blanks in front of it and behind it are left out,
and nothing else is (§2).
-/

namespace BuildCondition

open BuildCondition.Text

/-! ## §1  Characters of names -/

section Names

variable {c d : Char} {name rest : List Char}

theorem ne_of_isNameChar (h : isNameChar c = true) (hd : isNameChar d = false) : c ≠ d := by
  rintro rfl
  rw [h] at hd
  cases hd

theorem not_isBlank_of_isNameChar (h : isNameChar c = true) : isBlank c = false := by
  cases hblank : isBlank c with
  | false => rfl
  | true =>
      have hplain : (isAlphanumeric c || c == '_' || c == '.') = false :=
        (not_in_names_of_isBlank hblank).1
      -- of the characters of names, only the hyphen is left
      have hhyphen : c = '-' := by
        obtain ⟨hothers, hpoint⟩ := Bool.or_eq_false_iff.mp hplain
        obtain ⟨hletter, hline⟩ := Bool.or_eq_false_iff.mp hothers
        rw [isNameChar, hletter, hline, hpoint] at h
        simpa using h
      rw [hhyphen] at hblank
      exact absurd hblank (by decide)

/-- What a transform begins with. -/
def arrow : List Char := ['-', '>']

theorem arrow_isPrefix_cons : arrow <+: c :: rest ↔ c = '-' ∧ rest.head? = some '>' := by
  cases rest with
  | nil => simp [arrow, List.prefix_cons_iff]
  | cons d rest => simp [arrow, eq_comm]

/-- An arrow that begins in a name ends behind it. -/
theorem eq_hyphen_of_arrow_isPrefix (hname : ∀ c ∈ name, isNameChar c = true) (hne : name ≠ [])
    (h : arrow <+: name ++ rest) : name = ['-'] ∧ rest.head? = some '>' := by
  obtain ⟨c, more, rfl⟩ := List.exists_cons_of_ne_nil hne
  obtain ⟨rfl, hhead⟩ := arrow_isPrefix_cons.mp h
  cases more with
  | nil => exact ⟨rfl, hhead⟩
  | cons d more =>
      have hd := hname d (List.mem_cons_of_mem _ List.mem_cons_self)
      rw [Option.some.inj hhead] at hd
      exact absurd hd (by decide)

/-- Whether a character goes on with the type of an item list, given what follows it. -/
def goesOn (c : Char) (after : List Char) : Bool :=
  isNameChar c && !(c == '-' && after.head? == some '>')

theorem goesOn_iff : goesOn c rest = true ↔ isNameChar c = true ∧ ¬arrow <+: c :: rest := by
  simp [goesOn, arrow_isPrefix_cons, imp_iff_not_or]

end Names

/-! ## §2  Dividing a body -/

/-- A body is blanks, the type of the items, blanks, and what follows. -/
structure DividesBody (body before name between rest : List Char) : Prop where
  body_eq : body = before ++ (name ++ (between ++ rest))
  before_blank : ∀ c ∈ before, isBlank c = true
  name_chars : ∀ c ∈ name, isNameChar c = true
  between_blank : ∀ c ∈ between, isBlank c = true
  rest_stops : Stops isBlank rest
  /-- Where no blank follows the type, it is an arrow that ends it, or else a character that is in
  no name. -/
  name_ends : between = [] → rest ≠ [] → arrow <+: rest ∨ Stops isNameChar rest
  /-- No arrow follows a part of the type. -/
  no_arrow : ∀ front back, name = front ++ back → back ≠ [] → ¬arrow <+: back ++ (between ++ rest)

section Dividing

variable {body before name between rest behind : List Char}

theorem DividesBody.isRun (h : DividesBody body before name between rest) :
    IsRun goesOn name (between ++ rest) where
  accepted := by
    intro front c back hsplit
    have hmem : c ∈ name := by simp [hsplit]
    exact goesOn_iff.mpr ⟨h.name_chars c hmem,
      h.no_arrow front (c :: back) hsplit (List.cons_ne_nil c back)⟩
  ends := by
    intro c cs hcs
    refine Bool.eq_false_iff.mpr fun hgoes => ?_
    obtain ⟨hc, harrow⟩ := goesOn_iff.mp hgoes
    cases between with
    | nil =>
        rw [List.nil_append] at hcs
        subst hcs
        rcases h.name_ends rfl (List.cons_ne_nil c cs) with harrow' | hstop
        · exact harrow harrow'
        · rw [hstop.head] at hc
          cases hc
    | cons d between =>
        have hblank := h.between_blank d List.mem_cons_self
        rw [(List.cons.inj hcs).1, not_isBlank_of_isNameChar hc] at hblank
        cases hblank

/-- A run of characters that go on with a type is one, and the blanks behind it are all there are
before what follows. -/
theorem dividesBody_of_isRun (hbefore : ∀ c ∈ before, isBlank c = true)
    (hrun : IsRun goesOn name behind) :
    DividesBody (before ++ (name ++ behind)) before name (behind.takeWhile isBlank)
      (trimStart behind) where
  body_eq := by rw [trimStart, List.takeWhile_append_dropWhile]
  before_blank := hbefore
  name_chars := by
    intro c hc
    obtain ⟨front, back, rfl⟩ := List.append_of_mem hc
    exact (goesOn_iff.mp (hrun.accepted front c back rfl)).1
  between_blank := all_takeWhile
  rest_stops := stops_dropWhile
  name_ends := by
    intro hbetween hne
    obtain ⟨c, cs, hcs⟩ := List.exists_cons_of_ne_nil hne
    have hbehind : behind.takeWhile isBlank ++ trimStart behind = behind :=
      List.takeWhile_append_dropWhile
    rw [hbetween, List.nil_append, hcs] at hbehind
    rw [hcs]
    by_cases harrow : arrow <+: c :: cs
    · exact .inl harrow
    · have hc : ¬isNameChar c = true := fun hc => by
        have hends := hrun.ends c cs hbehind.symm
        rw [goesOn_iff.mpr ⟨hc, harrow⟩] at hends
        cases hends
      exact .inr (stops_cons (Bool.eq_false_iff.mpr hc))
  no_arrow := by
    rintro front back rfl hne
    obtain ⟨c, back, rfl⟩ := List.exists_cons_of_ne_nil hne
    rw [trimStart, List.takeWhile_append_dropWhile]
    exact (goesOn_iff.mp (hrun.accepted front c back rfl)).2

/-- The type is a run in the body without the blanks in front of it. -/
theorem splitItems_of_isRun (htrim : trimStart body = name ++ behind)
    (hrun : IsRun goesOn name behind) : splitItems body = (name, trimStart behind) := by
  have hparts : splitItems body =
      ((trimStart body).take (runLength goesOn 0 (trimStart body)),
        trimStart ((trimStart body).drop (runLength goesOn 0 (trimStart body)))) := rfl
  rw [hparts, htrim, hrun.runLength_eq, List.take_left, List.drop_left]

/-- A body is divided in one way only, if all blanks count as in front of a type that is missing. -/
theorem DividesBody.splitItems_eq (h : DividesBody body before name between rest)
    (hmissing : name = [] → between = []) : splitItems body = (name, rest) := by
  have hstops : Stops isBlank (name ++ (between ++ rest)) := by
    cases name with
    | nil =>
        rw [hmissing rfl]
        exact h.rest_stops
    | cons c name =>
        exact stops_cons (not_isBlank_of_isNameChar (h.name_chars c List.mem_cons_self))
  have htrim : trimStart body = name ++ (between ++ rest) := by
    rw [h.body_eq, trimStart, dropWhile_append_stops h.before_blank hstops]
  rw [splitItems_of_isRun htrim h.isRun, trimStart,
    dropWhile_append_stops h.between_blank h.rest_stops]

theorem exists_dividesBody (body : List Char) : ∃ before between,
    DividesBody body before (splitItems body).1 between (splitItems body).2 ∧
      ((splitItems body).1 = [] → between = []) := by
  obtain ⟨name, behind, htrim, hrun⟩ := exists_eq_run_append goesOn (trimStart body)
  have hbody : body = body.takeWhile isBlank ++ (name ++ behind) := by
    rw [← htrim, trimStart, List.takeWhile_append_dropWhile]
  have hblanks : ∀ c ∈ body.takeWhile isBlank, isBlank c = true := all_takeWhile
  have hdivides := dividesBody_of_isRun hblanks hrun
  rw [← hbody] at hdivides
  rw [splitItems_of_isRun htrim hrun]
  refine ⟨_, _, hdivides, ?_⟩
  rintro rfl
  -- the body was trimmed, so that no blank is left where the type is missing
  have hstops : Stops isBlank behind := by
    have htrimmed : Stops isBlank (trimStart body) := stops_dropWhile
    rwa [htrim] at htrimmed
  have hnone := takeWhile_append_stops (List.forall_mem_nil _) hstops
  rwa [List.nil_append] at hnone

/-- **The body of an item list is divided without loss.** It is blanks, the type, blanks and what
follows; the type ends at the first character that cannot be in a name or at the first arrow, and
nowhere else. -/
theorem splitItems_eq_iff : splitItems body = (name, rest) ↔
    ∃ before between, DividesBody body before name between rest ∧ (name = [] → between = []) := by
  constructor
  · intro h
    have hdivides := exists_dividesBody body
    rwa [h] at hdivides
  · rintro ⟨before, between, hdivides, hmissing⟩
    exact hdivides.splitItems_eq hmissing

end Dividing

end BuildCondition
