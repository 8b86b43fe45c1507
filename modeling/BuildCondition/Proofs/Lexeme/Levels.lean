import BuildCondition.Lexeme.Reader
import BuildCondition.Proofs.Lexeme.Balance

/-!
# Levels of references

In a text with references to properties inside one another, each `$(` together with the parenthesis
that closes it is a level. A level is a matter of the parentheses between its two ends, that is of
how many are open at each place (§1). Levels do not cross: two of them stand apart, or one is inside
the other (§2). What is in a level and in no level inside it is its own text (§3).
-/

namespace BuildCondition

open BuildCondition.Text

variable {src : List Char} {start stop s t k i j : Nat} {c : Char}

/-! ## §1  Open parentheses -/

/-- How many parentheses are open before a place; fewer than none if more are closed. -/
def height (src : List Char) (k : Nat) : Int :=
  ((src.take k).count '(' : Int) - ((src.take k).count ')' : Int)

theorem height_succ_open (h : src[k]? = some '(') : height src (k + 1) = height src k + 1 := by
  simp [height, List.take_add_one, h, List.count_append]
  omega

theorem height_succ_close (h : src[k]? = some ')') : height src (k + 1) = height src k - 1 := by
  simp [height, List.take_add_one, h, List.count_append]
  omega

theorem height_succ_pass (h : src[k]? = some c) (hopen : c ≠ '(') (hclose : c ≠ ')') :
    height src (k + 1) = height src k := by
  simp [height, List.take_add_one, h, List.count_append, hopen, hclose]

/-- What stands between two places. -/
def between (src : List Char) (k j : Nat) : List Char :=
  (src.take j).drop k

theorem take_eq_append_between (h : k ≤ j) : src.take j = src.take k ++ between src k j := by
  have htake : (src.take j).take k = src.take k := by rw [List.take_take, Nat.min_eq_left h]
  rw [between, ← htake, List.take_append_drop]

theorem height_eq_add_between (h : k ≤ j) : height src j = height src k +
    (((between src k j).count '(' : Int) - ((between src k j).count ')' : Int)) := by
  rw [height, height, take_eq_append_between h, List.count_append, List.count_append]
  omega

theorem prefix_between (h : i ≤ j) : between src k i <+: between src k j := by
  rw [between, between, ← Nat.min_eq_left h, ← List.take_take, List.drop_take]
  exact List.take_prefix _ _

theorem eq_between_of_prefix {pre : List Char} (h : pre <+: between src k j) (hkj : k ≤ j) :
    ∃ i, k ≤ i ∧ i ≤ j ∧ pre = between src k i := by
  have htake : pre = (between src k j).take pre.length := List.prefix_iff_eq_take.mp h
  refine ⟨min (k + pre.length) j, by omega, by omega, ?_⟩
  rw [between, ← List.take_take, ← List.take_drop]
  exact htake

/-- Parentheses are balanced between two places if no more of them are ever closed than opened, and
as many in the end. -/
theorem balances_between_iff (h : k ≤ j) : Reference.Balances 0 (between src k j) ↔
    height src j = height src k ∧ ∀ i, k ≤ i → i ≤ j → height src k ≤ height src i := by
  constructor
  · intro hbalances
    have htotal := hbalances.total
    refine ⟨?_, fun i hki hij => ?_⟩
    · rw [height_eq_add_between h]
      omega
    · have hwithin := hbalances.within _ (prefix_between hij)
      rw [height_eq_add_between hki]
      omega
  · rintro ⟨htotal, hwithin⟩
    refine ⟨fun pre hpre => ?_, ?_⟩
    · obtain ⟨i, hki, hij, rfl⟩ := eq_between_of_prefix hpre h
      have hle := hwithin i hki hij
      rw [height_eq_add_between hki] at hle
      omega
    · rw [height_eq_add_between h] at htotal
      omega

/-! ## §2  Levels -/

/-- A reference to a property begins at a place. -/
structure Opens (src : List Char) (start : Nat) : Prop where
  dollar : src[start]? = some '$'
  paren : src[start + 1]? = some '('

/-- A reference to a property and the parenthesis that closes it. -/
structure IsLevel (src : List Char) (start stop : Nat) : Prop where
  opens : Opens src start
  closes : src[stop]? = some ')'
  behind : start + 2 ≤ stop
  balances : Reference.Balances 0 (between src (start + 2) stop)

namespace Opens

/-- The `$` leaves the height as it is, and the parenthesis adds one. -/
theorem height_eq (h : Opens src start) :
    height src (start + 1) = height src start ∧ height src (start + 2) = height src start + 1 := by
  have hdollar : height src (start + 1) = height src start :=
    height_succ_pass h.dollar (by decide) (by decide)
  have hparen : height src (start + 2) = height src (start + 1) + 1 := height_succ_open h.paren
  exact ⟨hdollar, by omega⟩

/-- Two references do not begin at neighbouring places. -/
theorem add_two_le (h : Opens src start) (h' : Opens src s) (hlt : start < s) : start + 2 ≤ s := by
  refine Nat.lt_of_le_of_ne hlt ?_
  rintro rfl
  have hboth := h.paren.symm.trans h'.dollar
  cases hboth

end Opens

namespace IsLevel

theorem height_stop (h : IsLevel src start stop) : height src stop = height src (start + 2) :=
  ((balances_between_iff h.behind).mp h.balances).1

theorem height_le (h : IsLevel src start stop) (hi : start + 2 ≤ i) (hle : i ≤ stop) :
    height src (start + 2) ≤ height src i :=
  ((balances_between_iff h.behind).mp h.balances).2 i hi hle

theorem height_behind (h : IsLevel src start stop) :
    height src (stop + 1) = height src (start + 2) - 1 := by
  rw [height_succ_close h.closes, h.height_stop]

theorem stop_le (h : IsLevel src start stop) (h' : IsLevel src start t) : stop ≤ t := by
  refine Nat.le_of_not_lt fun hlt => ?_
  have hbehind := h'.behind
  have hle := h.height_le (i := t + 1) (by omega) hlt
  have heq := h'.height_behind
  omega

/-- A reference is closed by one parenthesis. -/
theorem stop_unique (h : IsLevel src start stop) (h' : IsLevel src start t) : stop = t :=
  Nat.le_antisymm (h.stop_le h') (h'.stop_le h)

/-- A level that begins in another one is closed in it. -/
theorem stop_lt (h : IsLevel src start stop) (h' : IsLevel src s t) (hs : start < s)
    (hlt : s < stop) : t < stop := by
  have hgap := h.opens.add_two_le h'.opens hs
  -- the level inside begins above the ground of the one around
  have hground := h.height_le hgap (Nat.le_of_lt hlt)
  have hopens := h'.opens.height_eq
  refine Nat.lt_of_not_le fun hle => ?_
  have hstop := h.height_stop
  have hne : s + 1 ≠ stop := by
    rintro rfl
    have hboth := h'.opens.paren.symm.trans h.closes
    cases hboth
  have habove := h'.height_le (i := stop) (by omega) hle
  omega

end IsLevel

/-! ## §3  The text of a level -/

/-- A place is in the text of the level that begins at `start`, as far as `limit`: it is behind
the parenthesis, and in no level inside, unless it is the `$` of one. -/
structure Owns (src : List Char) (start limit i : Nat) : Prop where
  behind : start + 2 ≤ i
  before : i < limit
  apart : ∀ s t, IsLevel src s t → start < s → t < limit → ¬(s < i ∧ i ≤ t)

namespace Owns

/-- The text begins behind the parenthesis. -/
theorem lt (h : Owns src start stop i) : start + 2 < stop :=
  Nat.lt_of_le_of_lt h.behind h.before

/-- Where no level inside is closed, one more place belongs to the text. -/
theorem succ_iff (hk : start + 2 ≤ k) (hclose : ∀ s, start < s → ¬IsLevel src s k) :
    Owns src start (k + 1) i ↔ Owns src start k i ∨ i = k := by
  have hearlier : ∀ {s t}, IsLevel src s t → start < s → t < k + 1 → t < k := by
    intro s t hlevel hs ht
    refine Nat.lt_of_le_of_ne (Nat.le_of_lt_succ ht) ?_
    rintro rfl
    exact hclose s hs hlevel
  constructor
  · intro h
    rcases Nat.lt_or_eq_of_le (Nat.le_of_lt_succ h.before) with hlt | rfl
    · exact .inl ⟨h.behind, hlt, fun s t hlevel hs ht => h.apart s t hlevel hs (by omega)⟩
    · exact .inr rfl
  · rintro (h | rfl)
    · have hbefore := h.before
      exact ⟨h.behind, by omega, fun s t hlevel hs ht =>
        h.apart s t hlevel hs (hearlier hlevel hs ht)⟩
    · refine ⟨hk, Nat.lt_succ_self _, fun s t hlevel hs ht hin => ?_⟩
      have hlt := hearlier hlevel hs ht
      omega

/-- Where a level inside is closed, the text goes on behind it, and its `$` was the last place. -/
theorem closed_iff (hlevel : IsLevel src s k) (hs : start < s) :
    Owns src start (k + 1) i ↔ Owns src start (s + 1) i := by
  have hbehind := hlevel.behind
  constructor
  · intro h
    have hle : i ≤ s := by
      refine Nat.le_of_not_lt fun hlt => ?_
      have hbefore := h.before
      exact h.apart s k hlevel hs (Nat.lt_succ_self k) ⟨hlt, by omega⟩
    exact ⟨h.behind, by omega, fun s' t' hlevel' hs' ht' =>
      h.apart s' t' hlevel' hs' (by omega)⟩
  · intro h
    have hbefore := h.before
    refine ⟨h.behind, by omega, fun s' t' hlevel' hs' ht' hin => ?_⟩
    by_cases hearly : t' < s + 1
    · exact h.apart s' t' hlevel' hs' hearly hin
    · -- a level with the `$` in it goes on behind the one that begins there
      have hne : s ≠ t' := by
        rintro rfl
        have hboth := hlevel.opens.dollar.symm.trans hlevel'.closes
        cases hboth
      have hlt := hlevel'.stop_lt hlevel (by omega) (by omega)
      omega

end Owns

/-- The text of a level, as far as `limit`, has such a character in it. -/
def HasOwn (src : List Char) (start limit : Nat) (p : Char → Prop) : Prop :=
  ∃ i c, Owns src start limit i ∧ src[i]? = some c ∧ p c

end BuildCondition
