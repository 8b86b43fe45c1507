import BuildCondition.Proofs.Embedding
import BuildCondition.Proofs.Operand
import BuildCondition.Proofs.Text.Blank
import BuildCondition.Proofs.VersionFunctions

/-!
# Dotted texts in comparisons

A dotted text is one to four groups of digits, joined by points. It has the shape of a version, and
the numbers that its groups write have an order of their own, group by group from the left (§1). The
text is a version only if each of these numbers is one of 64 bits, and otherwise it is at most a
number, namely if there is at most one point in it (§2). So a relational comparison of two dotted
texts says what the order of their groups says if all groups are that small. If one is not, then the
texts are compared as numbers, where `1.10` is less than `1.2`, or they cannot be compared (§3).
-/

namespace BuildCondition

open BuildCondition.Expr BuildCondition.Text

/-! ## §1  Groups of digits -/

/-- One to four groups of digits. -/
structure DottedText where
  groups : List (List Char)
  nonempty : groups ≠ []
  atMostFour : groups.length ≤ 4
  digits : ∀ g ∈ groups, g ≠ [] ∧ g.all Char.isDigit = true

/-- The order of the first two numbers that differ, with zeros behind the shorter list. -/
def orderByGroups (ms ns : List Nat) : Ordering :=
  (List.zipWithAll (fun m? n? => compare (m?.getD 0) (n?.getD 0)) ms ns).foldr Ordering.then .eq

namespace DottedText

variable {x y : DottedText}

/-- The groups, joined by points. -/
def chars (x : DottedText) : List Char :=
  ['.'].intercalate x.groups

def text (x : DottedText) : String :=
  String.ofList x.chars

/-- The numbers that the groups write. -/
def numbers (x : DottedText) : List Nat :=
  x.groups.map decimal

/-- Each group writes a number of 64 bits. -/
def Fits (x : DottedText) : Prop :=
  ∀ n ∈ x.numbers, n < wordLimit

/-- There is at most one point. -/
def IsNumber (x : DottedText) : Prop :=
  x.groups.length ≤ 2

instance : Decidable x.Fits :=
  inferInstanceAs (Decidable (∀ n ∈ x.numbers, n < wordLimit))

instance : Decidable x.IsNumber :=
  inferInstanceAs (Decidable (x.groups.length ≤ 2))

/-- The double nearest to the number with what is behind the first point as its fraction. -/
def double (x : DottedText) : Binary64 :=
  .ofDecimal false (decimal x.groups.flatten) (-(x.groups.tail.flatten.length : Int))

/-- The version with the numbers of the groups. -/
def version (x : DottedText) (h : x.Fits) : Version where
  parts := x.numbers
  nonempty := fun hnil => x.nonempty (List.map_eq_nil_iff.mp hnil)
  atMostFour := by
    rw [numbers, List.length_map]
    exact x.atMostFour
  bounded := h

end DottedText

section Order

variable {ms ns : List Nat}

theorem orderByGroups_eq_then : orderByGroups ms ns =
    (compare (ms.headD 0) (ns.headD 0)).then (orderByGroups ms.tail ns.tail) := by
  cases ms <;> cases ns <;> simp [orderByGroups, List.zipWithAll]

/-- Lists of at most four numbers are compared like the parts of versions. -/
theorem orderByGroups_eq_compare (v w : Version) :
    orderByGroups v.parts w.parts = v.compare w := by
  have hpart : ∀ (u : Version) (i : Nat), (u.parts.drop i).headD 0 = u.part i := by
    intro u i
    rw [List.headD_eq_head?_getD, List.head?_drop]
    rfl
  have hend : ∀ u : Version, u.parts.drop 4 = [] := fun u => List.drop_eq_nil_iff.mpr u.atMostFour
  have hstep : ∀ i, orderByGroups (v.parts.drop i) (w.parts.drop i) =
      (compare (v.part i) (w.part i)).then
        (orderByGroups (v.parts.drop (i + 1)) (w.parts.drop (i + 1))) := by
    intro i
    rw [orderByGroups_eq_then, hpart, hpart, List.tail_drop, List.tail_drop]
  have hfirst := hstep 0
  rw [List.drop_zero, List.drop_zero, hstep 1, hstep 2, hstep 3, hend, hend] at hfirst
  have hnone : orderByGroups [] [] = .eq := rfl
  rw [hfirst, hnone, Ordering.then_eq, Version.compare, Ordering.then_assoc]

end Order

/-! ## §2  Readings -/

namespace Value

theorem hexDigits?_of_not_mem {cs : List Char} (h : 'x' ∉ cs) (h' : 'X' ∉ cs) :
    hexDigits? cs = none := by
  unfold hexDigits?
  split
  · simp at h
  · simp at h'
  · rfl

theorem withoutSign_of_not_mem {cs : List Char} (h : '+' ∉ cs) (h' : '-' ∉ cs) :
    withoutSign cs = cs := by
  unfold withoutSign
  split
  · simp at h
  · simp at h'
  · rfl

/-- A text without a sign is cut at its first point. -/
theorem readDecimal?_of_cut {cs whole fraction : List Char} (hplus : '+' ∉ cs) (hminus : '-' ∉ cs)
    (hcut : (cutAt? '.' cs).getD (cs, []) = (whole, fraction)) : readDecimal? cs =
      if whole.all Char.isDigit && fraction.all Char.isDigit && !(whole ++ fraction).isEmpty then
        some (.ofDecimal false (decimal (whole ++ fraction)) (-(fraction.length : Int)))
      else none := by
  have hhead : cs.head? ≠ some '-' := fun h => hminus (List.mem_of_mem_head? h)
  rw [readDecimal?, withoutSign_of_not_mem hplus hminus, hcut]
  simp only [if_neg hhead]

end Value

namespace DottedText

variable {x : DottedText} {c : Char}

theorem chars_cons {g : List Char} {gs : List (List Char)} (h : x.groups = g :: gs)
    (hne : gs ≠ []) : x.chars = g ++ '.' :: ['.'].intercalate gs := by
  obtain ⟨g', gs', rfl⟩ := List.exists_cons_of_ne_nil hne
  simp [chars, h, List.intercalate]

theorem digit_or_point (h : c ∈ x.chars) : c.isDigit = true ∨ c = '.' := by
  rcases mem_of_mem_intercalate h with hpoint | ⟨g, hg, hc⟩
  · exact .inr hpoint
  · exact .inl (List.all_eq_true.mp (x.digits g hg).2 c hc)

theorem not_mem_chars (hdigit : c.isDigit = false) (hpoint : c ≠ '.') : c ∉ x.chars := by
  intro h
  rcases digit_or_point h with h | h
  · rw [hdigit] at h
    cases h
  · exact hpoint h

theorem point_not_mem {g : List Char} (h : g ∈ x.groups) : '.' ∉ g := by
  intro hpoint
  have hdigit := List.all_eq_true.mp (x.digits g h).2 '.' hpoint
  cases hdigit

theorem trim_chars (x : DottedText) : trim x.chars = x.chars := by
  refine trim_of_bare (bare_of_no_blanks fun c hc => ?_)
  cases hblank : isBlank c with
  | false => rfl
  | true =>
      have hclash := (not_in_names_of_isBlank hblank).1
      rcases digit_or_point hc with hdigit | rfl
      · rw [Lexeme.clashes_of_isHexDigit (Lexeme.isHexDigit_of_isDigit hdigit)] at hclash
        cases hclash
      · cases hblank

theorem mapM_readPart? {gs : List (List Char)}
    (h : ∀ g ∈ gs, g ≠ [] ∧ g.all Char.isDigit = true) :
    gs.mapM Version.readPart? = some (gs.map decimal) := by
  induction gs with
  | nil => rfl
  | cons g gs ih =>
      obtain ⟨⟨hne, hdigits⟩, hmore⟩ := List.forall_mem_cons.mp h
      have hread : Version.readPart? g = some (decimal g) := by
        rw [Version.readPart?, hdigits]
        simp [hne]
      rw [List.mapM_cons, hread, ih hmore]
      rfl

/-- A dotted text is a version if its numbers fit. -/
theorem read?_chars (x : DottedText) :
    Version.read? x.chars = if h : x.Fits then some (x.version h) else none := by
  have hfields : fields '.' (trim x.chars) = x.groups := by
    rw [trim_chars, chars, fields_intercalate (fun _ => point_not_mem) x.nonempty]
  rw [Version.read?, hfields, mapM_readPart? x.digits]
  by_cases h : x.Fits
  · rw [dif_pos h]
    exact dif_pos ⟨(x.version h).nonempty, (x.version h).atMostFour, h⟩
  · rw [dif_neg h]
    exact dif_neg fun hall => h hall.2.2

/-- The first point stands behind the first group. -/
theorem cutAt?_chars {g : List Char} {gs : List (List Char)} (h : x.groups = g :: gs) :
    (cutAt? '.' x.chars).getD (x.chars, []) = (g, ['.'].intercalate gs) := by
  have hpoint : '.' ∉ g := point_not_mem (by rw [h]; exact List.mem_cons_self)
  cases gs with
  | nil =>
      have hchars : x.chars = g := by simp [chars, h, List.intercalate]
      rw [hchars, cutAt?_of_not_mem hpoint]
      rfl
  | cons g' gs =>
      rw [chars_cons h (List.cons_ne_nil g' gs),
        cutAt?_append fun c hc => ne_of_mem_of_not_mem hc hpoint]
      rfl

/-- A dotted text is a number if there is at most one point. -/
theorem readNumber?_chars (x : DottedText) :
    Value.readNumber? x.chars = if x.IsNumber then some x.double else none := by
  have hnone : ∀ {c : Char}, c.isDigit = false → c ≠ '.' → c ∉ x.chars := not_mem_chars
  obtain ⟨g, gs, hgroups⟩ := List.exists_cons_of_ne_nil x.nonempty
  have hall := x.digits
  rw [hgroups] at hall
  obtain ⟨⟨hne, hdigits⟩, hmore⟩ := List.forall_mem_cons.mp hall
  rw [Value.readNumber?, trim_chars, Value.hexDigits?_of_not_mem
    (hnone (by decide) (by decide)) (hnone (by decide) (by decide))]
  show Value.readDecimal? x.chars = _
  rw [Value.readDecimal?_of_cut (hnone (by decide) (by decide)) (hnone (by decide) (by decide))
    (cutAt?_chars hgroups)]
  by_cases hlength : gs.length ≤ 1
  · have hnumber : x.IsNumber := by
      rw [IsNumber, hgroups]
      exact Nat.succ_le_succ hlength
    have hfraction : gs.flatten.all Char.isDigit = true := by
      rw [List.all_flatten, List.all_eq_true]
      exact fun h hh => (hmore h hh).2
    rw [if_pos hnumber, intercalate_eq_flatten hlength, hdigits, hfraction, double, hgroups,
      if_pos (by simp [hne])]
    rfl
  · have hnumber : ¬x.IsNumber := by
      rw [IsNumber, hgroups]
      exact fun h => hlength (Nat.le_of_succ_le_succ h)
    have hpoint : '.' ∈ ['.'].intercalate gs := mem_intercalate_self (Nat.lt_of_not_le hlength)
    have hfraction : (['.'].intercalate gs).all Char.isDigit = false :=
      List.all_eq_false.mpr ⟨'.', hpoint, by decide⟩
    rw [if_neg hnumber, hfraction, Bool.and_false, if_neg (by simp)]

end DottedText

/-! ## §3  Comparisons -/

namespace DottedText

variable {mode : Mode} {x y : DottedText} {c : Char}

/-- A dotted text in quotes, as an operand. -/
def operandAt (x : DottedText) (n : Nat) : Operand :=
  ⟨n, .text x.text, some x.text⟩

theorem version?_operandAt (x : DottedText) (n : Nat) :
    (x.operandAt n).version? = if h : x.Fits then some (x.version h) else none := by
  show Version.read? (String.ofList x.chars).toList = _
  rw [String.toList_ofList, read?_chars]

theorem number?_operandAt (x : DottedText) (n : Nat) :
    (x.operandAt n).number? = if x.IsNumber then some x.double else none := by
  show Value.readNumber? (String.ofList x.chars).toList = _
  rw [String.toList_ofList, readNumber?_chars]

@[simp] theorem isSome_version?_operandAt (n : Nat) :
    (x.operandAt n).version?.isSome ↔ x.Fits := by
  rw [version?_operandAt]
  by_cases h : x.Fits <;> simp [h]

@[simp] theorem isSome_number?_operandAt (n : Nat) :
    (x.operandAt n).number?.isSome ↔ x.IsNumber := by
  rw [number?_operandAt]
  by_cases h : x.IsNumber <;> simp [h]

theorem isComparable_operandAt (n : Nat) :
    (x.operandAt n).isComparable ↔ x.IsNumber ∨ x.Fits := by
  rw [Operand.isComparable, Bool.or_eq_true, isSome_number?_operandAt, isSome_version?_operandAt]

/-- Versions are ordered by their groups. Where one text is no version, the nearest doubles are
ordered if both are numbers. -/
theorem order_operandAt (n m : Nat) : (x.operandAt n).order (y.operandAt m) =
    if x.Fits ∧ y.Fits then .ok (some (orderByGroups x.numbers y.numbers))
    else if x.IsNumber ∧ y.IsNumber then .ok (x.double.compare? y.double)
    else .error (if x.IsNumber ∨ x.Fits then (y.operandAt m).blamed
      else (x.operandAt n).blamed) := by
  by_cases hfits : x.Fits ∧ y.Fits
  · rw [if_pos hfits, Operand.order, Operand.versionOrder?, version?_operandAt, version?_operandAt,
      dif_pos hfits.1, dif_pos hfits.2]
    exact congrArg (Except.ok ∘ some) (orderByGroups_eq_compare (x.version hfits.1) _).symm
  · have hversions : ¬((x.operandAt n).version?.isSome ∧ (y.operandAt m).version?.isSome) := by
      rwa [isSome_version?_operandAt, isSome_version?_operandAt]
    rw [if_neg hfits]
    by_cases hnumbers : x.IsNumber ∧ y.IsNumber
    · rw [if_pos hnumbers, Operand.order, Operand.versionOrder?_eq_none_iff.mpr hversions,
        number?_operandAt, number?_operandAt, if_pos hnumbers.1, if_pos hnumbers.2]
    · rw [if_neg hnumbers, Operand.order_of_incomparable ⟨hversions, by simpa using hnumbers⟩]
      simp only [isComparable_operandAt]

theorem not_mem_marks (h : c ∈ x.text.toList) : c ∉ Lexeme.marks := by
  have hall : Lexeme.marks.all (fun d => !d.isDigit && d != '.') = true := by decide
  have hmarks : ∀ d ∈ Lexeme.marks, d.isDigit = false ∧ d ≠ '.' := by
    simpa using List.all_eq_true.mp hall
  rw [text, String.toList_ofList] at h
  exact fun hc => not_mem_chars (hmarks c hc).1 (hmarks c hc).2 h

theorem cutApart_inQuotes (x : DottedText) :
    CutApart mode (inQuotes x.text).toList [⟨.quoted x.text, 0⟩] := by
  intro rest _
  have hspells := @Lexeme.spells_quoted mode x.text fun _ => not_mem_marks
  rw [source_quoted] at hspells
  exact .lexeme hspells trivial

theorem derives_literal (x : DottedText) :
    Derives .primary 0 [⟨.quoted x.text, 0⟩] (.literal 0 (.text x.text) x.text) := by
  refine .token ?_
  show some (ofQuoted 0 x.text) = _
  rw [ofQuoted, if_neg (by rw [Lexeme.hasReference_of_plain fun _ => not_mem_marks]; decide)]

end DottedText

/-- **A relational comparison of dotted texts compares versions if all groups fit 64 bits.** Then it
succeeds and says what the order of the groups says. Otherwise it compares numbers, if neither text
has a second point. If one has, it fails, and blames the second text if the first one is a number or
a version. -/
theorem evaluate_dotted_comparison {mode : Mode} {limit : Nat} {op : Comparison}
    (hop : op.isEquality = false) (hlimit : 0 < limit) (x y : DottedText) (place : Location)
    (state : BuildState) :
    (Condition.evaluate mode limit place
        (comparisonText op (inQuotes x.text) (inQuotes y.text))).result state =
      if x.Fits ∧ y.Fits then .ok (op.accepts (orderByGroups x.numbers y.numbers))
      else if x.IsNumber ∧ y.IsNumber then .ok ((x.double.compare? y.double).any op.accepts)
      else .error ((if x.IsNumber ∨ x.Fits then
          Failure.foundAt .notComparable (x.text.length + op.text.length + 5) y.text
        else Failure.foundAt .notComparable 1 x.text).withSource
          (comparisonText op (inQuotes x.text) (inQuotes y.text)) place) := by
  have hparse : Expr.parse mode limit (comparisonText op (inQuotes x.text) (inQuotes y.text)) =
      .ok _ :=
    parse_comparison op x.cutApart_inQuotes y.cutApart_inQuotes x.derives_literal
      y.derives_literal hlimit
  have hoffset : (inQuotes x.text).length + (op.text.length + 2) + 0 + 1 =
      x.text.length + op.text.length + 5 := by
    have hlength : (inQuotes x.text).length = x.text.length + 2 := by
      rw [← String.length_toList, toList_inQuotes, List.length_cons, List.length_append,
        String.length_toList]
      rfl
    omega
  rw [result_evaluate_of_parse hparse, result_evaluate_comparison op (by rfl) (by rfl)]
  show ((Operand.compare op (x.operandAt 0) (y.operandAt _)).mapError _) = _
  rw [Operand.compare, hop, if_neg (by decide), DottedText.order_operandAt]
  by_cases hfits : x.Fits ∧ y.Fits
  · rw [if_pos hfits, if_pos hfits]
    rfl
  · rw [if_neg hfits, if_neg hfits]
    by_cases hnumbers : x.IsNumber ∧ y.IsNumber
    · rw [if_pos hnumbers, if_pos hnumbers]
      rfl
    · rw [if_neg hnumbers, if_neg hnumbers, ← hoffset]
      rfl

/-- Groups count as numbers, so that `1.10` is later than `1.9.0.0`. -/
theorem evaluate_dotted_comparison_lengths :
    Comparison.greater.isEquality = false ∧ 0 < 50 ∧
      ∃ x y : DottedText, x.text = "1.10" ∧ y.text = "1.9.0.0" ∧ x.Fits ∧ y.Fits ∧
        orderByGroups x.numbers y.numbers = .gt ∧
        (Condition.evaluate .everything 50 .unknown "'1.10' > '1.9.0.0'").result Bag.empty.state =
          .ok true := by
  let x : DottedText := ⟨[['1'], ['1', '0']], by simp, by decide, by decide +kernel⟩
  let y : DottedText := ⟨[['1'], ['9'], ['0'], ['0']], by simp, by decide, by decide +kernel⟩
  have hfits : x.Fits ∧ y.Fits := by decide +kernel
  have hresult := @evaluate_dotted_comparison .everything 50 .greater (by rfl) (by decide) x y
    .unknown Bag.empty.state
  rw [if_pos hfits] at hresult
  exact ⟨rfl, by decide, x, y, by decide +kernel, by decide +kernel, hfits.1, hfits.2,
    by decide +kernel, hresult⟩

/-- A group of 2^64 is greater than a group of 2, and yet `1.18446744073709551616` does not count as
the greater one beside `1.2`. -/
theorem long_group_compared_as_fraction :
    ∃ x y : DottedText, x.text = "1.18446744073709551616" ∧ y.text = "1.2" ∧
      orderByGroups x.numbers y.numbers = .gt ∧
      (Condition.evaluate .everything 50 .unknown "'1.18446744073709551616' > '1.2'").result
        Bag.empty.state = .ok false := by
  let x : DottedText :=
    ⟨[['1'], "18446744073709551616".toList], by simp, by decide, by decide +kernel⟩
  let y : DottedText := ⟨[['1'], ['2']], by simp, by decide, by decide +kernel⟩
  have hresult : ((Condition.evaluate .everything 50 .unknown
      "'1.18446744073709551616' > '1.2'").result Bag.empty.state).toOption = some false := by
    decide +kernel
  exact ⟨x, y, by decide +kernel, by decide +kernel, by decide +kernel,
    toOption_eq_some.mp hresult⟩

end BuildCondition
