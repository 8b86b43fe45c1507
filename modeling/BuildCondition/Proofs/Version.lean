import BuildCondition.Proofs.DottedText
import BuildCondition.Proofs.Order
import BuildCondition.Proofs.Text.Digit

/-!
# The order of versions

Versions are compared as if each had four parts: zeros stand for those that are missing. So their
order is the lexicographic order of the padded parts, from which it has its laws, and versions that
are equal in it may be put for one another (§1). What is read as a version is a dotted text with
blanks around it, so that a version is found again in its own text, and a zero part may be written
behind it (§2).
-/

namespace BuildCondition

open BuildCondition.Text

namespace Version

variable {u v w : Version}

/-! ## §1  Padded parts -/

/-- Four parts: those of the version, and zeros behind them. -/
def padded (v : Version) : List Nat :=
  v.parts.rightpad 4 0

theorem padded_eq (v : Version) : v.padded = [v.part 0, v.part 1, v.part 2, v.part 3] := by
  obtain ⟨parts, nonempty, atMostFour, bounded⟩ := v
  match parts, nonempty, atMostFour with
  | [_], _, _ => rfl
  | [_, _], _, _ => rfl
  | [_, _, _], _, _ => rfl
  | [_, _, _, _], _, _ => rfl

theorem compare_eq_compareLex (v w : Version) :
    v.compare w = List.compareLex Ord.compare v.padded w.padded := by
  simp only [padded_eq, List.compareLex_cons_cons, List.compareLex_nil_nil, compare,
    Ordering.then_eq, Ordering.then_assoc]

instance : Std.TransCmp compare where
  eq_swap := by
    intro v w
    rw [compare_eq_compareLex, compare_eq_compareLex]
    exact Std.OrientedCmp.eq_swap
  isLE_trans := by
    intro u v w huv hvw
    rw [compare_eq_compareLex] at huv hvw ⊢
    exact Std.TransCmp.isLE_trans huv hvw

theorem compare_eq_eq_iff_padded : v.compare w = .eq ↔ v.padded = w.padded := by
  rw [compare_eq_compareLex]
  exact Std.LawfulEqCmp.compare_eq_iff_eq

theorem equal_iff : v.equal w = true ↔ v.compare w = .eq :=
  beq_iff_eq

/-- Equal, and in the same order to every other version. -/
structure OrderedAlike (v w : Version) : Prop where
  equal : v.equal w = true
  compare_left : ∀ u : Version, v.compare u = w.compare u
  compare_right : ∀ u : Version, u.compare v = u.compare w

theorem orderedAlike_of_part (h : ∀ i, v.part i = w.part i) : v.OrderedAlike w := by
  have heq : v.compare w = .eq := compare_eq_eq.mpr ⟨h 0, h 1, h 2, h 3⟩
  exact ⟨equal_iff.mpr heq, fun u => compare_congr heq (compare_self u),
    fun u => compare_congr (compare_self u) heq⟩

/-- A version with another part, which is zero. -/
def withZero (v : Version) (h : v.parts.length < 4) : Version where
  parts := v.parts ++ [0]
  nonempty := List.append_ne_nil_of_right_ne_nil _ (List.cons_ne_nil _ _)
  atMostFour := by
    rw [List.length_append]
    exact h
  bounded := by
    intro n hn
    rcases List.mem_append.mp hn with hpart | hzero
    · exact v.bounded n hpart
    · rw [List.mem_singleton.mp hzero]
      decide

theorem part_withZero (h : v.parts.length < 4) (i : Nat) : (v.withZero h).part i = v.part i := by
  show ((v.parts ++ [0])[i]?).getD 0 = (v.parts[i]?).getD 0
  rcases Nat.lt_trichotomy i v.parts.length with hlt | heq | hgt
  · rw [List.getElem?_append_left hlt]
  · rw [List.getElem?_append_right (Nat.le_of_eq heq.symm), List.getElem?_eq_none heq.ge, heq,
      Nat.sub_self]
    rfl
  · rw [List.getElem?_eq_none (Nat.le_of_lt hgt), List.getElem?_eq_none]
    rw [List.length_append]
    exact hgt

/-! ## §2  Texts -/

theorem of_mapM_readPart? {gs : List (List Char)} {ns : List Nat}
    (h : gs.mapM readPart? = some ns) :
    (∀ g ∈ gs, g ≠ [] ∧ g.all Char.isDigit = true) ∧ ns = gs.map decimal := by
  induction gs generalizing ns with
  | nil =>
      cases h
      exact ⟨List.forall_mem_nil _, rfl⟩
  | cons g gs ih =>
      rw [List.mapM_cons] at h
      obtain ⟨n, hn, h⟩ := Option.bind_eq_some_iff.mp h
      obtain ⟨ns, hns, h⟩ := Option.bind_eq_some_iff.mp h
      obtain ⟨hrest, rfl⟩ := ih hns
      cases h
      unfold readPart? at hn
      split at hn
      · rename_i hdigits
        cases hn
        obtain ⟨hne, hall⟩ := Bool.and_eq_true_iff.mp hdigits
        refine ⟨List.forall_mem_cons.mpr ⟨⟨?_, hall⟩, hrest⟩, rfl⟩
        rintro rfl
        cases hne
      · cases hn

/-- What is read as a version is a dotted text with blanks around it. -/
theorem exists_dottedText_of_read? {cs : List Char} (h : read? cs = some v) :
    ∃ x : DottedText, trim cs = x.chars ∧ x.numbers = v.parts := by
  have hjoin : ['.'].intercalate (fields '.' (trim cs)) = trim cs := by
    rw [fields_eq_splitOn, List.intercalate_splitOn]
  unfold read? at h
  cases hread : (fields '.' (trim cs)).mapM readPart? with
  | none =>
      rw [hread] at h
      cases h
  | some ns =>
      rw [hread] at h
      obtain ⟨hdigits, hns⟩ := of_mapM_readPart? hread
      dsimp only at h
      split at h
      · rename_i hbounds
        cases h
        rw [hns] at hbounds
        refine ⟨⟨fields '.' (trim cs), ?_, ?_, hdigits⟩, hjoin.symm, hns.symm⟩
        · intro hnil
          exact hbounds.1 (by rw [hnil]; rfl)
        · rw [← List.length_map (f := decimal)]
          exact hbounds.2.1
      · cases h

/-- A version is read where its parts are written in digits, with points between them and blanks
around them. -/
theorem read?_eq_some_iff {cs : List Char} : read? cs = some v ↔
    ∃ x : DottedText, trim cs = x.chars ∧ x.numbers = v.parts := by
  refine ⟨exists_dottedText_of_read?, ?_⟩
  rintro ⟨x, htrim, hnumbers⟩
  have hfits : x.Fits := by
    intro n hn
    rw [hnumbers] at hn
    exact v.bounded n hn
  have hchars : read? cs = read? x.chars := by
    rw [read?, read?, htrim, DottedText.trim_chars]
  rw [hchars, DottedText.read?_chars, dif_pos hfits]
  obtain ⟨parts, nonempty, atMostFour, bounded⟩ := v
  cases hnumbers
  rfl

/-- The parts in digits. -/
def written (v : Version) : DottedText where
  groups := v.parts.map (Nat.toDigits 10)
  nonempty := fun hnil => v.nonempty (List.map_eq_nil_iff.mp hnil)
  atMostFour := by
    rw [List.length_map]
    exact v.atMostFour
  digits := by
    intro g hg
    obtain ⟨n, _, rfl⟩ := List.mem_map.mp hg
    exact ⟨Nat.toDigits_ne_nil, List.all_eq_true.mpr (isDigit_toDigits n)⟩

theorem toList_text (v : Version) : v.text.toList = v.written.chars := by
  have hdigits : ∀ n : Nat, (toString n).toList = Nat.toDigits 10 n := fun n => by
    rw [Nat.toString_eq_repr, Nat.toList_repr]
  rw [text, String.toList_intercalate, List.map_map, DottedText.chars, written]
  exact congrArg (['.'].intercalate ·) (List.map_congr_left fun n _ => hdigits n)

theorem numbers_written (v : Version) : v.written.numbers = v.parts := by
  rw [DottedText.numbers, written, List.map_map]
  refine (List.map_congr_left fun n _ => ?_).trans (List.map_id v.parts)
  exact decimal_toDigits n

theorem read?_text (v : Version) : read? v.text.toList = some v := by
  refine read?_eq_some_iff.mpr ⟨v.written, ?_, v.numbers_written⟩
  rw [toList_text, DottedText.trim_chars]

end Version

/-- A dotted text with a zero group behind it. -/
def DottedText.withZero (x : DottedText) (h : x.groups.length < 4) : DottedText where
  groups := x.groups ++ [['0']]
  nonempty := List.append_ne_nil_of_right_ne_nil _ (List.cons_ne_nil _ _)
  atMostFour := by
    rw [List.length_append]
    exact h
  digits := by
    intro g hg
    rcases List.mem_append.mp hg with hgroup | hzero
    · exact x.digits g hgroup
    · rw [List.mem_singleton.mp hzero]
      exact ⟨List.cons_ne_nil _ _, rfl⟩

theorem DottedText.chars_withZero (x : DottedText) (h : x.groups.length < 4) :
    (x.withZero h).chars = x.chars ++ ['.', '0'] :=
  intercalate_append x.nonempty (List.cons_ne_nil _ _)

theorem DottedText.bare_chars (x : DottedText) : Bare x.chars := by
  rw [← x.trim_chars]
  exact bare_trim x.chars

namespace Version

variable {u v w : Version}

/-- A zero part may be written behind a text, if no blank stands there. -/
theorem read?_append_zero {cs : List Char} (h : read? cs = some v)
    (hback : Stops isBlank cs.reverse) (hlength : v.parts.length < 4) :
    read? (cs ++ ['.', '0']) = some (v.withZero hlength) := by
  obtain ⟨x, htrim, hnumbers⟩ := read?_eq_some_iff.mp h
  have hgroups : x.groups.length < 4 := by
    rwa [← hnumbers, DottedText.numbers, List.length_map] at hlength
  refine read?_eq_some_iff.mpr ⟨x.withZero hgroups, ?_, ?_⟩
  · obtain ⟨before, hbefore, hcs⟩ := exists_eq_append_trim hback
    have hsplit : cs ++ ['.', '0'] = before ++ ((x.withZero hgroups).chars ++ []) := by
      rw [DottedText.chars_withZero, ← htrim, List.append_nil, ← List.append_assoc, ← hcs]
    rw [hsplit, trim_append hbefore (List.forall_mem_nil _) (DottedText.bare_chars _)]
  · rw [DottedText.numbers, DottedText.withZero, List.map_append]
    exact congrArg (· ++ [0]) hnumbers

/-- **Versions are lawfully ordered.** Comparing them is reflexive, transitive and total, and the
other way round it gives the reverse. They are equal exactly if they compare so, and exactly if
their padded parts are the same. A zero part may be written behind a text with fewer than four, and
what is read then is ordered as before. Each version is read from its own text. -/
theorem versions_obey_order_laws :
    (∀ v : Version, v.compare v = .eq) ∧
      (∀ u v w : Version, (u.compare v).isLE → (v.compare w).isLE → (u.compare w).isLE) ∧
      (∀ v w : Version, (v.compare w).isLE ∨ (w.compare v).isLE) ∧
      (∀ v w : Version, w.compare v = (v.compare w).swap) ∧
      (∀ v w : Version, (v.equal w = true ↔ v.compare w = .eq) ∧
        (v.equal w = true ↔ v.padded = w.padded)) ∧
      (∀ (v : Version) (cs : List Char), read? cs = some v → Stops isBlank cs.reverse →
        v.parts.length < 4 → ∃ w, read? (cs ++ ['.', '0']) = some w ∧ w.OrderedAlike v) ∧
      (∀ v : Version, v.parts.length < 4 →
        ∃ w, read? (v.text ++ ".0").toList = some w ∧ w.OrderedAlike v) ∧
      ∀ v : Version, read? v.text.toList = some v := by
  have hzero : ∀ (v : Version) (cs : List Char), read? cs = some v → Stops isBlank cs.reverse →
      v.parts.length < 4 → ∃ w, read? (cs ++ ['.', '0']) = some w ∧ w.OrderedAlike v :=
    fun v cs hread hback hlength => ⟨v.withZero hlength, read?_append_zero hread hback hlength,
      orderedAlike_of_part (part_withZero hlength)⟩
  refine ⟨compare_self, fun u v w => Std.TransCmp.isLE_trans, fun v w => ?_,
    fun v w => (v.compare_swap w).symm, fun v w => ⟨equal_iff, ?_⟩, hzero, fun v hlength => ?_,
    read?_text⟩
  · rw [← v.compare_swap w]
    cases v.compare w <;> simp
  · rw [equal_iff, compare_eq_eq_iff_padded]
  · rw [String.toList_append]
    refine hzero v v.text.toList v.read?_text ?_ hlength
    rw [toList_text]
    exact v.written.bare_chars.back

/-- A version of two parts, written with zeros and a blank in front, and one of three. -/
theorem versions_obey_order_laws_zero_behind :
    ∃ v w : Version, read? " 01.10".toList = some v ∧ v.parts = [1, 10] ∧
      Stops isBlank " 01.10".toList.reverse ∧ read? " 01.10.0".toList = some w ∧
      w.OrderedAlike v := by
  let v : Version := ⟨[1, 10], by simp, by decide, by decide⟩
  have hread : read? " 01.10".toList = some v := by decide +kernel
  have hback : Stops isBlank " 01.10".toList.reverse := by decide +kernel
  obtain ⟨_, _, _, _, _, hzero, _⟩ := versions_obey_order_laws
  obtain ⟨w, hw, halike⟩ := hzero v " 01.10".toList hread hback (by decide)
  exact ⟨v, w, hread, rfl, hback, hw, halike⟩

end Version

end BuildCondition
