import BuildCondition.Proofs.Bag

/-!
# Transforms and separators

In a transform the item stands where its mark `%(Identity)` is written, in any ASCII case. Marks do
not overlap, so that a text may be taken apart at any of them (§1). What is left between the marks
depends on the text alone, and the text for an item has these pieces with the item between them:
what the item looks like does not matter (§2). A transform and a separator are found in what follows
the type of a list as they are written, whatever they say, if there are no quotes in them (§3).
-/

namespace BuildCondition

open BuildCondition.Text

variable {item m m' a b x cs rest : List Char} {c : Char} {ps qs : List (List Char)}

/-! ## §1  Marks -/

/-- A text that stands for the item. -/
def IsMark (m : List Char) : Prop :=
  m.map Char.toLower = identityMark

instance (m : List Char) : Decidable (IsMark m) :=
  inferInstanceAs (Decidable (_ = _))

/-- There is a mark somewhere in a text. -/
def HasMark (cs : List Char) : Prop :=
  ∃ a m b, IsMark m ∧ cs = a ++ (m ++ b)

theorem IsMark.length_eq (h : IsMark m) : m.length = identityMark.length := by
  rw [← h, List.length_map]

theorem HasMark.cons (h : HasMark cs) : HasMark (c :: cs) := by
  obtain ⟨a, m, b, hm, rfl⟩ := h
  exact ⟨c :: a, m, b, hm, rfl⟩

theorem not_hasMark_of_length_lt (h : cs.length < identityMark.length) : ¬HasMark cs := by
  rintro ⟨a, m, b, hm, rfl⟩
  rw [← hm.length_eq, List.length_append, List.length_append] at h
  omega

theorem startsWithMark_iff : startsWithMark cs = true ↔ ∃ m b, IsMark m ∧ cs = m ++ b := by
  rw [startsWithMark, Option.isSome_iff_exists]
  constructor
  · rintro ⟨rest, h⟩
    have hsame := after?_eq_some_iff.mp h
    -- as many characters are looked at as there are in the mark
    have hlength := congrArg List.length hsame
    rw [List.length_map, List.length_take, List.length_append] at hlength
    obtain rfl : rest = [] := List.length_eq_zero_iff.mp (by omega)
    rw [List.append_nil] at hsame
    exact ⟨_, _, hsame, (List.take_append_drop identityMark.length cs).symm⟩
  · rintro ⟨m, b, hm, rfl⟩
    rw [← hm.length_eq, List.take_left, hm]
    exact ⟨[], rfl⟩

/-- A mark starts with a percent sign, and there is no other one in it. -/
theorem IsMark.exists_cons (h : IsMark m) :
    ∃ tail, m = '%' :: tail ∧ '%' ∉ tail.map Char.toLower := by
  cases m with
  | nil => cases h
  | cons c tail =>
      obtain ⟨hc, htail⟩ := List.cons.inj h
      have hpercent : c.toLower = '%' → c = '%' :=
        toLower_cases (P := fun c d => d = '%' → c = '%') (by decide) (fun _ => id) c
      refine ⟨tail, by rw [hpercent hc], ?_⟩
      rw [htail]
      decide

theorem IsMark.length_pos (h : IsMark m) : 0 < m.length := by
  rw [h.length_eq]
  decide

/-- What holds of a text for the rest behind each mark or other character holds of every text. -/
theorem markInduction {motive : List Char → Prop} (nil : motive [])
    (char : ∀ c cs, startsWithMark (c :: cs) = false → motive cs → motive (c :: cs))
    (mark : ∀ m rest, IsMark m → motive rest → motive (m ++ rest)) (cs : List Char) :
    motive cs := by
  induction hlength : cs.length using Nat.strongRecOn generalizing cs with
  | ind n ih =>
      subst hlength
      cases cs with
      | nil => exact nil
      | cons c cs =>
          cases hstart : startsWithMark (c :: cs) with
          | false => exact char c cs hstart (ih _ (Nat.lt_succ_self _) cs rfl)
          | true =>
              obtain ⟨m, rest, hm, hsrc⟩ := startsWithMark_iff.mp hstart
              have hpos := hm.length_pos
              rw [hsrc, List.length_append] at ih
              rw [hsrc]
              exact mark m rest hm (ih _ (by omega) rest rfl)

/-- **Marks do not overlap.** Behind the first character, one starts where the other has ended. -/
theorem IsMark.apart (hm : IsMark m) (hm' : IsMark m') (h : m' ++ rest = x ++ (m ++ b))
    (hx : x ≠ []) : ∃ y, x = m' ++ y := by
  rcases List.append_eq_append_iff.mp h with ⟨y, hy, _⟩ | ⟨y, hy, hbehind⟩
  · exact ⟨y, hy⟩
  · obtain ⟨tail, rfl, _⟩ := hm.exists_cons
    obtain ⟨tail', rfl, hnone⟩ := hm'.exists_cons
    cases y with
    | nil => exact ⟨[], by rw [hy, List.append_nil, List.append_nil]⟩
    | cons d y =>
        -- the percent sign of one would stand inside the other
        obtain ⟨w, x, rfl⟩ := List.exists_cons_of_ne_nil hx
        have hd : '%' = d := (List.cons.inj hbehind).1
        have htail : tail' = x ++ d :: y := (List.cons.inj hy).2
        refine absurd ?_ hnone
        rw [htail, ← hd]
        simp

/-! ## §2  Putting items -/

theorem putItemFrom_done (item done : List Char) (covered : Nat) (cs : List Char) :
    putItemFrom item done covered cs = done.reverse ++ putItemFrom item [] covered cs := by
  induction cs generalizing done covered with
  | nil => simp [putItemFrom]
  | cons c cs ih =>
      cases covered with
      | succ covered => exact ih done covered
      | zero =>
          simp only [putItemFrom]
          split
          · rw [ih (item.reverseAux done), ih (item.reverseAux []), List.reverseAux_eq,
              List.reverseAux_eq, List.append_nil, List.reverse_append, List.append_assoc]
          · rw [ih (c :: done), ih [c], List.reverse_cons, List.append_assoc]
            rfl

theorem putItemFrom_covered (item done src rest : List Char) :
    putItemFrom item done src.length (src ++ rest) = putItemFrom item done 0 rest := by
  induction src with
  | nil => rfl
  | cons c src ih => exact ih

theorem putItem_char (h : startsWithMark (c :: cs) = false) :
    putItem item (c :: cs) = c :: putItem item cs := by
  rw [putItem, putItemFrom, h]
  exact putItemFrom_done item [c] 0 cs

theorem putItem_mark (h : IsMark m) (rest : List Char) :
    putItem item (m ++ rest) = item ++ putItem item rest := by
  have hstart : startsWithMark (m ++ rest) = true := startsWithMark_iff.mpr ⟨m, rest, h, rfl⟩
  obtain ⟨tail, rfl, _⟩ := h.exists_cons
  have hcovered : identityMark.length - 1 = tail.length := by
    rw [← h.length_eq, List.length_cons, Nat.add_sub_cancel]
  rw [List.cons_append] at hstart ⊢
  rw [putItem, putItemFrom, hstart]
  simp only [if_true, hcovered]
  rw [putItemFrom_covered, putItemFrom_done, List.reverseAux_eq, List.append_nil,
    List.reverse_reverse]
  rfl

/-- A text without marks is left as it is. -/
theorem putItem_of_not_hasMark (h : ¬HasMark cs) : putItem item cs = cs := by
  induction cs with
  | nil => rfl
  | cons c cs ih =>
      have hstart : startsWithMark (c :: cs) = false := by
        rw [← Bool.not_eq_true, startsWithMark_iff]
        rintro ⟨m, b, hm, hsrc⟩
        exact h ⟨[], m, b, hm, hsrc⟩
      rw [putItem_char hstart, ih fun hmark => h hmark.cons]

/-- **At any mark of a text, the item is put, and what stands before and behind it is treated on its
own.** -/
theorem putItem_append_mark (hm : IsMark m) (a b : List Char) :
    putItem item (a ++ (m ++ b)) = putItem item a ++ (item ++ putItem item b) := by
  induction a using markInduction with
  | nil => exact putItem_mark hm b
  | char c a hstart ih =>
      have hbehind : startsWithMark (c :: (a ++ (m ++ b))) = false := by
        rw [← Bool.not_eq_true, startsWithMark_iff] at hstart ⊢
        rintro ⟨m', rest, hm', hsrc⟩
        obtain ⟨y, hy⟩ := hm.apart hm' hsrc.symm (List.cons_ne_nil c a)
        exact hstart ⟨m', y, hm', hy⟩
      rw [List.cons_append, putItem_char hbehind, ih, putItem_char hstart, List.cons_append]
  | mark m' rest hm' ih =>
      rw [List.append_assoc, putItem_mark hm', ih, putItem_mark hm', List.append_assoc]

/-- What is left of a text if it is taken apart at all its marks. -/
inductive CutAtMarks : List Char → List (List Char) → Prop where
  | whole {cs : List Char} (unmarked : ¬HasMark cs) : CutAtMarks cs [cs]
  | mark {a m b : List Char} {ps qs : List (List Char)} (mark : IsMark m)
      (before : CutAtMarks a ps) (behind : CutAtMarks b qs) :
      CutAtMarks (a ++ (m ++ b)) (ps ++ qs)

theorem CutAtMarks.ne_nil (h : CutAtMarks cs ps) : ps ≠ [] := by
  induction h with
  | whole _ => exact List.cons_ne_nil _ _
  | mark _ _ _ ihbefore _ => exact List.append_ne_nil_of_left_ne_nil ihbefore _

theorem exists_cutAtMarks (cs : List Char) : ∃ ps, CutAtMarks cs ps := by
  induction hlength : cs.length using Nat.strongRecOn generalizing cs with
  | ind n ih =>
      subst hlength
      by_cases h : HasMark cs
      · obtain ⟨a, m, b, hm, rfl⟩ := h
        have hpos := hm.length_pos
        rw [List.length_append, List.length_append] at ih
        obtain ⟨ps, hps⟩ := ih a.length (by omega) a rfl
        obtain ⟨qs, hqs⟩ := ih b.length (by omega) b rfl
        exact ⟨ps ++ qs, .mark hm hps hqs⟩
      · exact ⟨[cs], .whole h⟩

/-- **The text for an item has the item between the pieces of the template.** -/
theorem CutAtMarks.putItem_eq (h : CutAtMarks cs ps) (item : List Char) :
    putItem item cs = item.intercalate ps := by
  induction h with
  | whole hnone => rw [putItem_of_not_hasMark hnone, List.intercalate_singleton]
  | mark hm hbefore hbehind ihbefore ihbehind =>
      rw [putItem_append_mark hm, ihbefore, ihbehind,
        intercalate_append hbefore.ne_nil hbehind.ne_nil]

/-- However a text is taken apart at its marks, the pieces are the same. -/
theorem CutAtMarks.unique (h : CutAtMarks cs ps) (h' : CutAtMarks cs qs) : ps = qs := by
  have hsame : ∀ item : List Char, item.intercalate ps = item.intercalate qs := fun item =>
    (h.putItem_eq item).symm.trans (h'.putItem_eq item)
  exact Bag.eq_of_intercalate (x := '+') (y := '-') (by decide) h.ne_nil h'.ne_nil (hsame _)
    (hsame _)

/-! ## §3  What follows the type of a list -/

theorem splitQuoted_quoted {inside : List Char} (h : '\'' ∉ inside) (after : List Char) :
    splitQuoted ('\'' :: (inside ++ '\'' :: after)) = (inside, after) := by
  rw [splitQuoted, cutAt?_append (fun c hc => ne_of_mem_of_not_mem hc h)]
  rfl

/-- How a separator is written. -/
def writtenSeparator (separator : List Char) : List Char :=
  ',' :: ' ' :: '\'' :: (separator ++ ['\''])

/-- How a transform with a separator behind it is written. -/
def writtenTransform (template separator : List Char) : List Char :=
  '-' :: '>' :: '\'' :: (template ++ '\'' :: writtenSeparator separator)

theorem bare_append_quote (h : isBlank c = false) (cs : List Char) :
    Bare (c :: (cs ++ ['\''])) where
  front := stops_cons h
  back := by
    rw [← List.cons_append, List.reverse_append]
    exact stops_cons (by decide)

theorem bare_writtenSeparator (separator : List Char) : Bare (writtenSeparator separator) :=
  bare_append_quote (by decide) (' ' :: '\'' :: separator)

theorem bare_writtenTransform (template separator : List Char) :
    Bare (writtenTransform template separator) := by
  have hbare := bare_append_quote (c := '-') (by decide)
    ('>' :: '\'' :: (template ++ '\'' :: ',' :: ' ' :: '\'' :: separator))
  rwa [List.cons_append, List.cons_append, List.append_assoc] at hbare

theorem splitTransform_written {template separator : List Char} (h : '\'' ∉ template) :
    splitTransform (writtenTransform template separator) =
      (some template, writtenSeparator separator) := by
  have hquoted := splitQuoted_quoted h (writtenSeparator separator)
  have hafter : after? ['-', '>'] (writtenTransform template separator) =
    some ('\'' :: (template ++ '\'' :: writtenSeparator separator)) := rfl
  rw [splitTransform, hafter]
  simp only []
  rw [trimStart_of_stops (stops_cons (by decide)), hquoted,
    trim_of_bare (bare_writtenSeparator separator)]

theorem separatorOf_written {separator : List Char} (h : '\'' ∉ separator) :
    separatorOf (writtenSeparator separator) = separator := by
  have hquoted := splitQuoted_quoted h []
  have htrim : trimStart (' ' :: '\'' :: (separator ++ ['\''])) =
      '\'' :: (separator ++ ['\'']) := by
    rw [trimStart, List.dropWhile_cons_of_pos (by decide)]
    exact trimStart_of_stops (stops_cons (by decide))
  rw [writtenSeparator, separatorOf, htrim, hquoted]

/-- The text of some items with a transform and a separator. -/
theorem listItems_written {template separator : List Char} (items : List String)
    (htemplate : '\'' ∉ template) (hseparator : '\'' ∉ separator) (h : CutAtMarks template ps) :
    (listItems items (writtenTransform template separator)).toList =
      separator.intercalate (items.map fun item => item.toList.intercalate ps) := by
  rw [listItems, trim_of_bare (bare_writtenTransform template separator),
    splitTransform_written htemplate]
  simp only []
  rw [separatorOf_written hseparator, String.toList_intercalate, String.toList_ofList, List.map_map]
  congr 1
  refine List.map_congr_left fun item _ => ?_
  rw [Function.comp_apply, String.toList_ofList, h.putItem_eq]

end BuildCondition
