import BuildCondition.Bag
import BuildCondition.Proofs.Function
import BuildCondition.Proofs.Text.Lowercase

/-!
# What a state in memory remembers

A property is written under the lower case form of its name and looked up under that of its trimmed
name. The two agree for a name without blanks around it, and for no other (§1). Each change of a
state leaves the rest of it alone (§2). So a property that was set is found if its name is trimmed;
it stays until a name with the same trimmed lower case form is set, whatever else is done to the
state. Under any other name a value is written where no lookup reaches it, and what was found before
is still found (§3). Of items, the texts of their list tell all there is to know (§4).
-/

namespace BuildCondition

open BuildCondition.Text

/-! ## §1  Trimmed names -/

/-- A name without the blanks around it. -/
def trimmed (name : String) : String :=
  String.ofList (trim name.toList)

variable {name : String}

@[simp] theorem toList_trimmed (name : String) : (trimmed name).toList = trim name.toList :=
  String.toList_ofList

@[simp] theorem trimmed_trimmed (name : String) : trimmed (trimmed name) = trimmed name := by
  rw [trimmed, toList_trimmed, trim_trim, trimmed]

theorem lower_trimmed (name : String) : lower (trimmed name) = trimmed (lower name) := by
  rw [lower, toList_trimmed, lowercase_trim, trimmed, lower, String.toList_ofList]

/-- Only a trimmed name has the lower case form of its trimmed name. -/
theorem lower_trimmed_eq_lower_iff : lower (trimmed name) = lower name ↔ trimmed name = name := by
  refine ⟨fun h => ?_, congrArg lower⟩
  obtain ⟨w, w', hw, hw', heq⟩ := exists_eq_trim name.toList
  have hlower : lowercase (trim name.toList) = lowercase name.toList := by
    have hlists := congrArg String.toList h
    rwa [lower, lower, String.toList_ofList, String.toList_ofList, toList_trimmed] at hlists
  have hlength : (lowercase (trim name.toList)).length =
      w.length + ((lowercase (trim name.toList)).length + w'.length) := by
    have hblanks : lowercase name.toList = w ++ (lowercase (trim name.toList) ++ w') :=
      (congrArg lowercase heq).trans (lowercase_append hw hw')
    rw [← List.length_append, ← List.length_append, ← hblanks, hlower]
  -- no room is left for blanks
  obtain rfl : w = [] := List.length_eq_zero_iff.mp (by omega)
  obtain rfl : w' = [] := List.length_eq_zero_iff.mp (by omega)
  rw [List.nil_append, List.append_nil] at heq
  rw [trimmed, ← heq, String.ofList_toList]

/-- A name that is written where another one is looked up has the same trimmed form. -/
theorem lower_trimmed_of_eq_lower {other : String} (h : lower (trimmed name) = lower other) :
    lower (trimmed other) = lower (trimmed name) := by
  rw [lower_trimmed other, ← h, ← lower_trimmed, trimmed_trimmed]

namespace Bag

variable {bag : Bag}

/-! ## §2  Changes -/

/-- What can be done to a state. -/
inductive Change where
  | setProperty (name value : String)
  | addItem (type item : String)
  | setMetadata (item name value : String)
  | register (name : String) (f : Function)

/-- A state after a change. -/
def apply (bag : Bag) : Change → Bag
  | .setProperty name value => bag.setProperty name value
  | .addItem type item => bag.addItem type item
  | .setMetadata item name value => bag.setMetadata item name value
  | .register name f => bag.register name f

/-- A state after some changes, the first one first. -/
def applyAll (bag : Bag) (changes : List Change) : Bag :=
  changes.foldl apply bag

/-- Registering a function does not change what a lookup finds. -/
theorem lookUp_register (bag : Bag) (name : String) (f : Function) (l : Lookup) :
    (bag.register name f).lookUp l = bag.lookUp l := by
  cases l <;> rfl

theorem lookup_setProperty (bag : Bag) (name value key : String) :
    (bag.setProperty name value).properties.lookup key =
      if key = lower name then some value else bag.properties.lookup key :=
  lookup_cons_name key (lower name) value bag.properties

theorem lookup_setMetadata (bag : Bag) (item name value key : String) :
    (bag.setMetadata item name value).metadata.lookup key =
      if key = metadataKey item name then some value else bag.metadata.lookup key :=
  lookup_cons_name key (metadataKey item name) value bag.metadata

theorem property?_setProperty (bag : Bag) (name value other : String) :
    (bag.setProperty name value).property? other =
      if lower (trimmed other) = lower name then some value else bag.property? other :=
  lookup_setProperty bag name value (lower (trimmed other))

/-- A change leaves a property as it is, unless it sets one with the same trimmed name. -/
theorem property?_apply {change : Change}
    (h : ∀ other value, change = .setProperty other value →
      lower (trimmed other) ≠ lower (trimmed name)) :
    (bag.apply change).property? name = bag.property? name := by
  cases change with
  | setProperty other value =>
      have hother : lower (trimmed name) ≠ lower other := fun heq =>
        h other value rfl (lower_trimmed_of_eq_lower heq)
      rw [apply, property?_setProperty, if_neg hother]
  | addItem type item => rfl
  | setMetadata item other value => rfl
  | register other f => rfl

theorem property?_applyAll {changes : List Change}
    (h : ∀ other value, .setProperty other value ∈ changes →
      lower (trimmed other) ≠ lower (trimmed name)) :
    (bag.applyAll changes).property? name = bag.property? name := by
  induction changes generalizing bag with
  | nil => rfl
  | cons change changes ih =>
      have hfirst : (bag.apply change).property? name = bag.property? name :=
        property?_apply fun other value heq => h other value (heq ▸ List.mem_cons_self)
      have hrest := @ih (bag.apply change) fun other value hmem =>
        h other value (List.mem_cons_of_mem _ hmem)
      exact hrest.trans hfirst

/-! ## §3  Setting and finding -/

/-- **A property that was set is found if its name is trimmed, and otherwise it is as if it had
not been set.** What is done later does not matter, unless it sets a property with the same trimmed
name. -/
theorem found_after_setProperty (bag : Bag) (name value : String) (later : List Change)
    (h : ∀ other v, .setProperty other v ∈ later →
      lower (trimmed other) ≠ lower (trimmed name)) :
    ((bag.setProperty name value).applyAll later).property? name =
      if trimmed name = name then some value else bag.property? name := by
  rw [property?_applyAll h, property?_setProperty]
  simp only [lower_trimmed_eq_lower_iff]

/-- A trimmed name, with another one set later, and a name with a blank behind it. -/
theorem found_after_setProperty_flag :
    ((empty.setProperty "Flag" "on").applyAll
        [.addItem "Flag" "x", .setProperty "Flag2" "off"]).property? "Flag" = some "on" ∧
      ((empty.setProperty "Flag " "on").applyAll []).property? "Flag " = none := by
  constructor
  · refine (found_after_setProperty empty "Flag" "on" _ ?_).trans (by decide +kernel)
    intro other v hmem
    have hsame : (.setProperty other v : Change) = .setProperty "Flag2" "off" := by
      simpa using hmem
    cases hsame
    decide +kernel
  · exact (found_after_setProperty empty "Flag " "on" [] (by simp)).trans
      (by decide +kernel)

/-- A property with a blank around its name is not found under the name it was set with. -/
theorem not_found_after_setProperty_blank :
    (empty.setProperty " Flag" "true").property? " Flag" ≠ some "true" := by
  decide +kernel

/-! ## §4  Item lists -/

/-- Two texts are cut at the same place if either of two marks can stand there. -/
theorem eq_of_append_mark {x y : Char} (hne : x ≠ y) {as bs rest rest' more more' : List Char}
    (hx : as ++ x :: rest = bs ++ x :: rest') (hy : as ++ y :: more = bs ++ y :: more') :
    as = bs := by
  induction as generalizing bs with
  | nil =>
      cases bs with
      | nil => rfl
      | cons b bs => exact absurd ((List.cons.inj hx).1.trans (List.cons.inj hy).1.symm) hne
  | cons a as ih =>
      cases bs with
      | nil => exact absurd ((List.cons.inj hx).1.symm.trans (List.cons.inj hy).1) hne
      | cons b bs =>
          obtain ⟨rfl, hrest⟩ := List.cons.inj hx
          rw [ih hrest (List.cons.inj hy).2]

/-- No text goes on with both of two marks. -/
theorem append_mark_ne {x y : Char} (hne : x ≠ y) {as bs rest rest' : List Char}
    (hx : as = bs ++ x :: rest) (hy : as = bs ++ y :: rest') : False :=
  hne (List.cons.inj (List.append_cancel_left (hx.symm.trans hy))).1

/-- Texts that read alike with either of two separators between them are the same. -/
theorem eq_of_intercalate {x y : Char} (hne : x ≠ y) {as bs : List (List Char)}
    (ha : as ≠ []) (hb : bs ≠ []) (hx : [x].intercalate as = [x].intercalate bs)
    (hy : [y].intercalate as = [y].intercalate bs) : as = bs := by
  induction as generalizing bs with
  | nil => exact absurd rfl ha
  | cons a as ih =>
      obtain ⟨b, bs, rfl⟩ := List.exists_cons_of_ne_nil hb
      cases as with
      | nil =>
          cases bs with
          | nil => simpa using hx
          | cons b' bs =>
              simp only [List.intercalate_singleton, List.intercalate_cons_cons, List.append_assoc,
                List.singleton_append] at hx hy
              exact (append_mark_ne hne hx hy).elim
      | cons a' as =>
          cases bs with
          | nil =>
              simp only [List.intercalate_singleton, List.intercalate_cons_cons, List.append_assoc,
                List.singleton_append] at hx hy
              exact (append_mark_ne hne hx.symm hy.symm).elim
          | cons b' bs =>
              simp only [List.intercalate_cons_cons, List.append_assoc,
                List.singleton_append] at hx hy
              obtain rfl := eq_of_append_mark hne hx hy
              have hx' := (List.cons.inj (List.append_cancel_left hx)).2
              have hy' := (List.cons.inj (List.append_cancel_left hy)).2
              rw [ih (List.cons_ne_nil _ _) (List.cons_ne_nil _ _) hx' hy']

/-- An item list with a separator of one character and no transform. -/
theorem listItems_separator {mark : Char} (h : mark = '+' ∨ mark = '-') (items : List String) :
    (listItems items [',', mark]).toList = [mark].intercalate (items.map String.toList) := by
  rcases h with rfl | rfl
  · exact String.toList_intercalate
  · exact String.toList_intercalate

/-- The texts of an item list tell the items apart. -/
theorem itemsOf_eq_of_itemList? {other : Bag} {type : String}
    (h : ∀ rest, bag.itemList? type rest = other.itemList? type rest) :
    bag.itemsOf type = other.itemsOf type := by
  have hmark : ∀ mark, bag.itemList? type (String.ofList [',', mark]) =
      other.itemList? type (String.ofList [',', mark]) := fun mark => h _
  unfold itemList? at hmark
  cases hitems : bag.itemsOf type with
  | nil =>
      cases hothers : other.itemsOf type with
      | nil => rfl
      | cons i is =>
          rw [hitems, hothers] at hmark
          cases hmark '+'
  | cons i is =>
      cases hothers : other.itemsOf type with
      | nil =>
          rw [hitems, hothers] at hmark
          cases hmark '+'
      | cons j js =>
          rw [hitems, hothers] at hmark
          have hread : ∀ mark, mark = '+' ∨ mark = '-' →
              [mark].intercalate ((i :: is).map String.toList) =
                [mark].intercalate ((j :: js).map String.toList) := by
            intro mark hsep
            have hlists := Option.some.inj (hmark mark)
            rw [String.toList_ofList] at hlists
            rw [← listItems_separator hsep, ← listItems_separator hsep, hlists]
          have htexts := eq_of_intercalate (by decide) (List.cons_ne_nil _ _) (List.cons_ne_nil _ _)
            (hread '+' (.inl rfl)) (hread '-' (.inr rfl))
          exact (List.map_inj_right fun _ _ => String.toList_inj.mp).mp htexts

end Bag

end BuildCondition
