import BuildCondition.Proofs.Bag

/-!
# Metadata of different items

The metadata of an item are written under one text, the lower case forms of the item and of the name
with a point between them; where there is no item, it is the name alone. An item or a name may have
points of its own. Then different pairs can be written alike: the item `A.B` with the name `C` is
written like `A` with `B.C`, and like the name `A.B.C` without an item (§1). What is set for a pair
of names is seen under another pair if the two are written alike, or if the other one has no
metadata and its name alone is written like the first pair; and else it is not (§2).
-/

namespace BuildCondition.Bag

open BuildCondition.Text

variable {bag : Bag} {item name other otherName value : String}

/-! ## §1  Pairs that are written alike -/

/-- An item and a name as they are written, with a point between them if there is an item. -/
def qualified (item name : String) : String :=
  if item = "" then name else item ++ "." ++ name

/-- Two different pairs are written alike, and the item of the first one is the longer one. It goes
on behind the other item, which may be missing, and what it goes on with begins the other name. -/
def RunsInto (item name other otherName : String) : Prop :=
  item ≠ "" ∧ ∃ inner,
    item = (if other = "" then inner else other ++ "." ++ inner) ∧
      otherName = inner ++ "." ++ name

theorem lower_eq_empty_iff : lower name = "" ↔ name = "" := by
  refine ⟨fun h => ?_, by rintro rfl; rfl⟩
  have hnil : lowercase name.toList = [] := by
    rw [← String.toList_ofList (l := lowercase name.toList)]
    exact congrArg String.toList h
  rw [lowercase_eq] at hnil
  cases hname : name.toList with
  | nil => rw [← String.ofList_toList (s := name), hname]
  | cons c cs =>
      rw [hname, lowerFrom] at hnil
      exact absurd (List.append_eq_nil_iff.mp hnil).1 (lowerAt_ne_nil [] c cs)

theorem metadataKey_eq (item name : String) :
    metadataKey item name = qualified (lower item) (lower name) := by
  simp only [metadataKey, qualified, lower_eq_empty_iff]

/-- Two texts with the same mark in each: either they are cut there at the same place, or the mark
of one of them stands in front of the mark of the other. -/
theorem append_mark_eq_append_mark_iff {α : Type} {x : α} {as bs cs ds : List α} :
    as ++ x :: bs = cs ++ x :: ds ↔
      (as = cs ∧ bs = ds) ∨ (∃ inner, as = cs ++ x :: inner ∧ ds = inner ++ x :: bs) ∨
        ∃ inner, cs = as ++ x :: inner ∧ bs = inner ++ x :: ds := by
  constructor
  · intro h
    rcases List.append_eq_append_iff.mp h with ⟨more, hcs, hbs⟩ | ⟨more, has, hds⟩
    · cases more with
      | nil =>
          rw [List.append_nil] at hcs
          exact .inl ⟨hcs.symm, (List.cons.inj hbs).2⟩
      | cons y inner =>
          obtain ⟨rfl, hrest⟩ := List.cons.inj hbs
          exact .inr (.inr ⟨inner, hcs, hrest⟩)
    · cases more with
      | nil =>
          rw [List.append_nil] at has
          exact .inl ⟨has, (List.cons.inj hds).2.symm⟩
      | cons y inner =>
          obtain ⟨rfl, hrest⟩ := List.cons.inj hds
          exact .inr (.inl ⟨inner, has, hrest⟩)
  · rintro (⟨rfl, rfl⟩ | ⟨inner, rfl, rfl⟩ | ⟨inner, rfl, rfl⟩)
    · rfl
    · rw [List.append_assoc, List.cons_append]
    · rw [List.append_assoc, List.cons_append]

theorem append_point_eq_append_point_iff :
    item ++ "." ++ name = other ++ "." ++ otherName ↔
      (item = other ∧ name = otherName) ∨
        (∃ inner, item = other ++ "." ++ inner ∧ otherName = inner ++ "." ++ name) ∨
          ∃ inner, other = item ++ "." ++ inner ∧ name = inner ++ "." ++ otherName := by
  have hpoint : ∀ s t : String, (s ++ "." ++ t).toList = s.toList ++ '.' :: t.toList := by
    intro s t
    simp
  have hexists : ∀ {p : List Char → Prop}, (∃ cs, p cs) ↔ ∃ s : String, p s.toList :=
    ⟨fun ⟨cs, h⟩ => ⟨String.ofList cs, by rwa [String.toList_ofList]⟩, fun ⟨s, h⟩ => ⟨_, h⟩⟩
  simp only [← String.toList_inj, hpoint]
  rw [append_mark_eq_append_mark_iff, hexists, hexists]

theorem qualified_eq_iff :
    qualified item name = qualified other otherName ↔
      (item = other ∧ name = otherName) ∨ RunsInto item name other otherName ∨
        RunsInto other otherName item name := by
  unfold qualified RunsInto
  by_cases hitem : item = "" <;> by_cases hother : other = ""
  · simp [hitem, hother]
  · have hne : item ≠ other := fun h => hother (h ▸ hitem)
    simp [hitem, hother, Ne.symm hother]
  · simp [hitem, hother]
    exact eq_comm
  · simp only [hitem, hother, if_false, ne_eq, not_false_eq_true, true_and]
    exact append_point_eq_append_point_iff

/-! ## §2  Setting metadata -/

theorem metadata?_setMetadata (bag : Bag) (item name value other otherName : String) :
    (bag.setMetadata item name value).metadata? other otherName =
      if metadataKey other otherName = metadataKey item name then some value
      else (bag.metadata.lookup (metadataKey other otherName)).or
        (if metadataKey "" otherName = metadataKey item name then some value
          else bag.metadata.lookup (metadataKey "" otherName)) := by
  rw [metadata?, lookup_setMetadata, lookup_setMetadata]
  split
  · rw [Option.some_or]
  · rfl

/-- What is set for the first pair of names is seen under the second one, if that is another. -/
def ShowsUnder (bag : Bag) (item name other otherName : String) : Prop :=
  (RunsInto (lower other) (lower otherName) (lower item) (lower name) ∨
      RunsInto (lower item) (lower name) (lower other) (lower otherName)) ∨
    (bag.metadata.lookup (metadataKey other otherName) = none ∧
      RunsInto (lower item) (lower name) "" (lower otherName))

/-- Among pairs that differ, and but for the fallback to the name alone, it is by their keys that
one shows under the other. -/
theorem showsUnder_iff (hdiffer : ¬(lower other = lower item ∧ lower otherName = lower name))
    (hfallback : ¬(item = "" ∧ lower otherName = lower name)) :
    bag.ShowsUnder item name other otherName ↔
      metadataKey other otherName = metadataKey item name ∨
        (bag.metadata.lookup (metadataKey other otherName) = none ∧
          metadataKey "" otherName = metadataKey item name) := by
  have hempty : lower "" = "" := rfl
  have hnone : ¬RunsInto "" (lower otherName) (lower item) (lower name) := fun h => h.1 rfl
  have hsame : ¬("" = lower item ∧ lower otherName = lower name) := fun h =>
    hfallback ⟨lower_eq_empty_iff.mp h.1.symm, h.2⟩
  rw [ShowsUnder, metadataKey_eq other, metadataKey_eq item, metadataKey_eq "", qualified_eq_iff,
    hempty, qualified_eq_iff, or_iff_right hdiffer, or_iff_right hsame, or_iff_right hnone]

/-- **Setting metadata leaves those of every other pair of names alone, unless the two are written
alike.** A pair without metadata of its own also shows what is set for its name alone, with which
the first pair may be written alike. -/
theorem metadata?_setMetadata_of_differ
    (hdiffer : ¬(lower other = lower item ∧ lower otherName = lower name))
    (hfallback : ¬(item = "" ∧ lower otherName = lower name)) (bag : Bag) (value : String) :
    (¬bag.ShowsUnder item name other otherName →
        (bag.setMetadata item name value).metadata? other otherName =
          bag.metadata? other otherName) ∧
      (bag.ShowsUnder item name other otherName →
        (bag.setMetadata item name value).metadata? other otherName = some value) := by
  rw [showsUnder_iff hdiffer hfallback, metadata?_setMetadata, metadata?]
  constructor
  · intro h
    obtain ⟨hkey, hname⟩ := not_or.mp h
    rw [if_neg hkey]
    cases hfound : bag.metadata.lookup (metadataKey other otherName) with
    | none => rw [if_neg fun heq => hname ⟨hfound, heq⟩]
    | some old => rfl
  · rintro (hkey | ⟨hfound, hname⟩)
    · rw [if_pos hkey]
    · rw [hfound, if_pos hname, Option.none_or, ite_self]

/-- `A.B` with `C` is written like `A` with `B.C`, and like the name `A.B.C` without an item. The
pair of `A` and `C` is written otherwise. -/
theorem metadata?_setMetadata_of_differ_dotted :
    ((empty.setMetadata "A.B" "C" "x").metadata? "A" "C" = empty.metadata? "A" "C") ∧
      ((empty.setMetadata "A.B" "C" "x").metadata? "a" "b.c" = some "x") ∧
      ((empty.setMetadata "A.B" "C" "x").metadata? "D" "A.B.C" = some "x") := by
  refine ⟨(metadata?_setMetadata_of_differ (by decide +kernel) (by decide) empty "x").1 ?_,
    (metadata?_setMetadata_of_differ (by decide +kernel) (by decide) empty "x").2 ?_,
    (metadata?_setMetadata_of_differ (by decide +kernel) (by decide) empty "x").2 ?_⟩
  · rw [showsUnder_iff (by decide +kernel) (by decide)]
    decide +kernel
  · exact .inl (.inr ⟨by decide +kernel, "b", by decide +kernel, by decide +kernel⟩)
  · exact .inr ⟨by decide +kernel, by decide +kernel, "a.b", by decide +kernel, by decide +kernel⟩

/-- Two pairs that differ, the first one with an item; still, what is set for it is found under the
second one. -/
theorem metadata_found_under_other_pair :
    ¬(lower "a" = lower "a.b" ∧ lower "b.c" = lower "c") ∧
      ¬("a.b" = "" ∧ lower "b.c" = lower "c") ∧
      (empty.setMetadata "a.b" "c" "v").metadata? "a" "b.c" ≠ empty.metadata? "a" "b.c" := by
  decide +kernel

end BuildCondition.Bag
