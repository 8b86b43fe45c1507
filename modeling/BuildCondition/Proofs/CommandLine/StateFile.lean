import BuildCondition.CommandLine.Run
import BuildCondition.Proofs.Bag

/-!
# The order of a state file

The entries of a state file are in no particular order, but they are written into the state one
after the other. What one key holds in the end depends on the entries under that key alone (§1, §2).
Names that differ as texts may have the same key: names in different case, and metadata with and
without a point in front. The last value stays, and items add up, so that the order may show. It
does not if the values under each key are the same and the items of each type commute, where entries
that no lookup finds do not count, nor properties that an option sets anyway (§3). In all other
cases it does show, as any entry can come last and any two can change places (§4).
-/

namespace BuildCondition.CommandLine

open BuildCondition.Text

/-! ## §1  Entries under a key -/

/-- The value of the last entry under a key, or else what was found before. -/
def lastUnder (keyOf : String → String) (key : String) (found : Option String)
    (entries : List (String × String)) : Option String :=
  entries.foldl (fun found e => if key = keyOf e.1 then some e.2 else found) found

/-- The items of an entry, if its type has the key. -/
def itemsUnder (key : String) (entry : String × List String) : List String :=
  if key = lower entry.1 then entry.2 else []

section

variable {keyOf : String → String} {key : String} {found : Option String}
  {entries others : List (String × String)}

theorem lastUnder_append_self (found : Option String) (entries : List (String × String))
    (e : String × String) : lastUnder keyOf (keyOf e.1) found (entries ++ [e]) = some e.2 := by
  rw [lastUnder, List.foldl_append, List.foldl_cons, List.foldl_nil, if_pos rfl]

theorem lastUnder_of_absent (h : ∀ e ∈ entries, keyOf e.1 ≠ key) :
    lastUnder keyOf key found entries = found := by
  induction entries with
  | nil => rfl
  | cons e entries ih =>
      obtain ⟨he, hrest⟩ := List.forall_mem_cons.mp h
      rw [lastUnder, List.foldl_cons, if_neg (Ne.symm he)]
      exact ih hrest

/-- What was found before does not matter if there is an entry under the key. -/
theorem lastUnder_of_present (h : ∃ e ∈ entries, keyOf e.1 = key) (found found' : Option String) :
    lastUnder keyOf key found entries = lastUnder keyOf key found' entries := by
  induction entries generalizing found found' with
  | nil =>
      obtain ⟨e, he, _⟩ := h
      cases he
  | cons e entries ih =>
      rw [lastUnder, lastUnder, List.foldl_cons, List.foldl_cons]
      by_cases he : key = keyOf e.1
      · rw [if_pos he, if_pos he]
      · rw [if_neg he, if_neg he]
        obtain ⟨d, hd, hkey⟩ := h
        rcases List.mem_cons.mp hd with rfl | hrest
        · exact absurd hkey.symm he
        · exact ih ⟨d, hrest, hkey⟩ found found'

theorem lastUnder_perm (hperm : entries.Perm others)
    (h : ∀ p ∈ entries, ∀ q ∈ entries, keyOf p.1 = key → keyOf q.1 = key → p.2 = q.2) :
    lastUnder keyOf key found entries = lastUnder keyOf key found others := by
  refine hperm.foldl_eq' (fun p hp q hq found => ?_) found
  by_cases hpkey : key = keyOf p.1
  · by_cases hqkey : key = keyOf q.1
    · rw [if_pos hpkey, if_pos hqkey, if_pos hqkey, if_pos hpkey,
        h p hp q hq hpkey.symm hqkey.symm]
    · rw [if_neg hqkey, if_neg hqkey]
  · rw [if_neg hpkey, if_neg hpkey]

/-- Any entry can be put last. -/
theorem exists_perm_lastUnder (keyOf : String → String) (found : Option String)
    {e : String × String} (he : e ∈ entries) :
    ∃ others, entries.Perm others ∧ lastUnder keyOf (keyOf e.1) found others = some e.2 :=
  ⟨entries.erase e ++ [e], (List.perm_cons_erase he).trans (List.perm_append_singleton _ _).symm,
    lastUnder_append_self found _ e⟩

end

/-- Lists that commute may be strung together in any order. -/
theorem flatMap_perm {α β : Type} {f : α → List β} {xs ys : List α} (hperm : xs.Perm ys)
    (h : ∀ x ∈ xs, ∀ y ∈ xs, f x ++ f y = f y ++ f x) : xs.flatMap f = ys.flatMap f := by
  have hfold : ∀ zs : List α, zs.flatMap f = zs.foldl (· ++ f ·) [] := by
    intro zs
    rw [List.foldl_append_eq_append, List.nil_append, List.flatMap_def]
  rw [hfold, hfold]
  refine hperm.foldl_eq' (fun x hx y hy done => ?_) []
  rw [List.append_assoc, h x hx y hy, List.append_assoc]

/-! ## §2  What is stored -/

theorem itemsOf_addItem (bag : Bag) (t item type : String) :
    (bag.addItem t item).itemsOf type =
      bag.itemsOf type ++ itemsUnder (lower type) (t, [item]) := by
  rw [Bag.itemsOf, Bag.addItem, itemsUnder, List.filter_cons]
  by_cases h : lower type = lower t
  · rw [if_pos (beq_iff_eq.mpr h.symm), if_pos h, List.map_cons, List.reverse_cons]
    rfl
  · rw [if_neg (mt beq_iff_eq.mp (Ne.symm h)), if_neg h, List.append_nil]
    rfl

namespace StateFile

theorem itemsOf_addItems (bag : Bag) (t type : String) (items : List String) :
    (addItems bag t items).itemsOf type =
      bag.itemsOf type ++ itemsUnder (lower type) (t, items) := by
  induction items generalizing bag with
  | nil =>
      rw [itemsUnder, ite_self, List.append_nil]
      rfl
  | cons item items ih =>
      rw [addItems, List.foldl_cons]
      refine (ih (bag.addItem t item)).trans ?_
      rw [itemsOf_addItem, List.append_assoc, itemsUnder, itemsUnder, itemsUnder]
      split <;> rfl

/-- Whatever adding one item keeps, adding items of one type keeps. -/
theorem read_addItems {β : Type} (read : Bag → β)
    (h : ∀ bag t item, read (bag.addItem t item) = read bag) (bag : Bag) (t : String)
    (items : List String) : read (addItems bag t items) = read bag := by
  induction items generalizing bag with
  | nil => rfl
  | cons item items ih => exact (ih (bag.addItem t item)).trans (h bag t item)

/-- The key of metadata in a state file. -/
def metadataKeyOf (key : String) : String :=
  Bag.metadataKey (splitKey key).1 (splitKey key).2

end StateFile

/-- What options and a state file do to something that is read of a state. -/
theorem read_buildState {β : Type} (read : Bag → β) (putProperty : β → String × String → β)
    (putItems : β → String × List String → β) (putMetadata : β → String × String → β)
    (hproperty : ∀ bag p, read (bag.setProperty p.1 p.2) = putProperty (read bag) p)
    (hitems : ∀ bag i, read (StateFile.addItems bag i.1 i.2) = putItems (read bag) i)
    (hmetadata : ∀ bag m,
      read (bag.setMetadata (StateFile.splitKey m.1).1 (StateFile.splitKey m.1).2 m.2) =
        putMetadata (read bag) m)
    (functions : FunctionTable) (file : StateFile) (a : Arguments) :
    read (buildState functions file a) =
      (a.items.map fun i => (i.1, listedItems i.2)).foldl putItems
        (a.properties.foldl putProperty
          (file.metadata.foldl putMetadata
            (file.items.foldl putItems
              (file.properties.foldl putProperty
                (read ((Bag.withFunctions functions).register existsName
                  (existsFunction false))))))) := by
  have hlisted : ∀ bag (i : String × String),
      read (StateFile.addItems bag i.1 (listedItems i.2)) =
        putItems (read bag) (i.1, listedItems i.2) := fun bag i => hitems bag (i.1, listedItems i.2)
  rw [buildState, withOptions, StateFile.addTo, List.foldl_map,
    List.foldl_hom read fun bag p => (hproperty bag p).symm,
    List.foldl_hom read fun bag i => (hitems bag i).symm,
    List.foldl_hom read fun bag m => (hmetadata bag m).symm,
    List.foldl_hom read fun bag p => (hproperty bag p).symm]
  exact (List.foldl_hom read fun bag i => (hlisted bag i).symm).symm

theorem foldl_same {α β : Type} (xs : List α) (b : β) : xs.foldl (fun b _ => b) b = b := by
  induction xs with
  | nil => rfl
  | cons x xs ih => exact ih

section

variable (functions : FunctionTable) (file : StateFile) (a : Arguments)

theorem lookup_properties_buildState (key : String) :
    (buildState functions file a).properties.lookup key =
      lastUnder lower key (lastUnder lower key none file.properties) a.properties := by
  refine (read_buildState (fun bag => bag.properties.lookup key)
    (fun found p => if key = lower p.1 then some p.2 else found) (fun found _ => found)
    (fun found _ => found) (fun bag p => Bag.lookup_setProperty bag p.1 p.2 key)
    (fun bag i => congrArg (List.lookup key)
      (StateFile.read_addItems Bag.properties (fun _ _ _ => rfl) bag i.1 i.2))
    (fun _ _ => rfl) functions file a).trans ?_
  rw [foldl_same, foldl_same, foldl_same]
  rfl

theorem itemsOf_buildState (type : String) :
    (buildState functions file a).itemsOf type =
      file.items.flatMap (itemsUnder (lower type)) ++
        (a.items.map fun i => (i.1, listedItems i.2)).flatMap (itemsUnder (lower type)) := by
  refine (read_buildState (fun bag => bag.itemsOf type) (fun items _ => items)
    (fun items i => items ++ itemsUnder (lower type) i) (fun items _ => items) (fun _ _ => rfl)
    (fun bag i => StateFile.itemsOf_addItems bag i.1 type i.2)
    (fun _ _ => rfl) functions file a).trans ?_
  rw [foldl_same, foldl_same, foldl_same, List.foldl_append_eq_append,
    List.foldl_append_eq_append, List.flatMap_def, List.flatMap_def]
  rfl

theorem lookup_metadata_buildState (key : String) :
    (buildState functions file a).metadata.lookup key =
      lastUnder StateFile.metadataKeyOf key none file.metadata := by
  refine (read_buildState (fun bag => bag.metadata.lookup key) (fun found _ => found)
    (fun found _ => found)
    (fun found m => if key = StateFile.metadataKeyOf m.1 then some m.2 else found) (fun _ _ => rfl)
    (fun bag i => congrArg (List.lookup key)
      (StateFile.read_addItems Bag.metadata (fun _ _ _ => rfl) bag i.1 i.2))
    (fun bag m => Bag.lookup_setMetadata bag _ _ m.2 key) functions file a).trans ?_
  rw [foldl_same, foldl_same, foldl_same, foldl_same]
  rfl

theorem functions_buildState :
    (buildState functions file a).functions =
      functions.register existsName (existsFunction false) := by
  refine (read_buildState Bag.functions (fun table _ => table) (fun table _ => table)
    (fun table _ => table) (fun _ _ => rfl)
    (fun bag i => StateFile.read_addItems Bag.functions (fun _ _ _ => rfl) bag i.1 i.2)
    (fun _ _ => rfl) functions file a).trans ?_
  rw [foldl_same, foldl_same, foldl_same, foldl_same, foldl_same]
  rfl

end

/-! ## §3  Where the order matters -/

namespace StateFile

/-- The entries of one file are those of the other in some order. -/
structure Reorders (file other : StateFile) : Prop where
  properties : file.properties.Perm other.properties
  items : file.items.Perm other.items
  metadata : file.metadata.Perm other.metadata

/-- Entries that lead to the same place say the same. A property whose name is not trimmed leads
nowhere, and an option sets a property in any case. -/
structure Unambiguous (file : StateFile) (a : Arguments) : Prop where
  properties : ∀ p ∈ file.properties, ∀ q ∈ file.properties, lower p.1 = lower q.1 →
    trimmed p.1 = p.1 → (∀ o ∈ a.properties, lower o.1 ≠ lower p.1) → p.2 = q.2
  items : ∀ i ∈ file.items, ∀ j ∈ file.items, lower i.1 = lower j.1 → i.2 ++ j.2 = j.2 ++ i.2
  metadata : ∀ p ∈ file.metadata, ∀ q ∈ file.metadata,
    metadataKeyOf p.1 = metadataKeyOf q.1 → p.2 = q.2

instance (file : StateFile) (a : Arguments) : Decidable (file.Unambiguous a) :=
  decidable_of_iff
    ((∀ p ∈ file.properties, ∀ q ∈ file.properties, lower p.1 = lower q.1 →
        trimmed p.1 = p.1 → (∀ o ∈ a.properties, lower o.1 ≠ lower p.1) → p.2 = q.2) ∧
      (∀ i ∈ file.items, ∀ j ∈ file.items, lower i.1 = lower j.1 → i.2 ++ j.2 = j.2 ++ i.2) ∧
      ∀ p ∈ file.metadata, ∀ q ∈ file.metadata, metadataKeyOf p.1 = metadataKeyOf q.1 → p.2 = q.2)
    ⟨fun h => ⟨h.1, h.2.1, h.2.2⟩, fun h => ⟨h.properties, h.items, h.metadata⟩⟩

end StateFile

/-- No order of the file changes what a lookup finds. -/
def OrderFree (functions : FunctionTable) (file : StateFile) (a : Arguments) : Prop :=
  ∀ other, file.Reorders other → ∀ l,
    (buildState functions other a).lookUp l = (buildState functions file a).lookUp l

section

variable {functions : FunctionTable} {file other : StateFile} {a : Arguments}

theorem property?_reorder (h : file.Unambiguous a) (hother : file.Reorders other) (name : String) :
    (buildState functions other a).property? name = (buildState functions file a).property? name := by
  show (buildState functions other a).properties.lookup (lower (trimmed name)) =
    (buildState functions file a).properties.lookup (lower (trimmed name))
  rw [lookup_properties_buildState, lookup_properties_buildState]
  by_cases hset : ∃ o ∈ a.properties, lower o.1 = lower (trimmed name)
  · exact lastUnder_of_present hset _ _
  · have hunset : ∀ o ∈ a.properties, lower o.1 ≠ lower (trimmed name) :=
      fun o ho heq => hset ⟨o, ho, heq⟩
    rw [lastUnder_of_absent hunset, lastUnder_of_absent hunset]
    refine (lastUnder_perm hother.properties fun p hp q hq hpkey hqkey => ?_).symm
    -- a name that is found is trimmed
    have htrimmed : trimmed p.1 = p.1 :=
      lower_trimmed_eq_lower_iff.mp ((lower_trimmed_of_eq_lower hpkey.symm).trans hpkey.symm)
    exact h.properties p hp q hq (hpkey.trans hqkey.symm) htrimmed (by rw [hpkey]; exact hunset)

theorem itemsOf_reorder (h : file.Unambiguous a) (hother : file.Reorders other) (type : String) :
    (buildState functions other a).itemsOf type = (buildState functions file a).itemsOf type := by
  rw [itemsOf_buildState, itemsOf_buildState]
  refine congrArg (· ++ _) (flatMap_perm hother.items fun i hi j hj => ?_).symm
  rw [itemsUnder, itemsUnder]
  by_cases hikey : lower type = lower i.1
  · by_cases hjkey : lower type = lower j.1
    · rw [if_pos hikey, if_pos hjkey]
      exact h.items i hi j hj (hikey.symm.trans hjkey)
    · rw [if_neg hjkey, List.append_nil, List.nil_append]
  · rw [if_neg hikey, List.append_nil, List.nil_append]

theorem metadata_reorder (h : file.Unambiguous a) (hother : file.Reorders other) (key : String) :
    (buildState functions other a).metadata.lookup key =
      (buildState functions file a).metadata.lookup key := by
  rw [lookup_metadata_buildState, lookup_metadata_buildState]
  exact (lastUnder_perm hother.metadata fun p hp q hq hpkey hqkey =>
    h.metadata p hp q hq (hpkey.trans hqkey.symm)).symm

theorem StateFile.Unambiguous.orderFree (h : file.Unambiguous a) : OrderFree functions file a := by
  intro other hother l
  cases l with
  | property name => exact property?_reorder h hother name
  | items type rest =>
      rw [Bag.lookUp, Bag.lookUp, Bag.itemList?, Bag.itemList?, itemsOf_reorder h hother]
  | metadata item name =>
      rw [Bag.lookUp, Bag.lookUp, Bag.metadata?, Bag.metadata?, metadata_reorder h hother,
        metadata_reorder h hother]

/-! ## §4  What an order that does not show says -/

theorem OrderFree.properties (h : OrderFree functions file a) {p q : String × String}
    (hp : p ∈ file.properties) (hq : q ∈ file.properties) (hkey : lower p.1 = lower q.1)
    (htrimmed : trimmed p.1 = p.1) (hunset : ∀ o ∈ a.properties, lower o.1 ≠ lower p.1) :
    p.2 = q.2 := by
  -- each of the two is found in an order that puts it last
  have hlast : ∀ e ∈ file.properties, lower e.1 = lower p.1 →
      (buildState functions file a).property? p.1 = some e.2 := by
    intro e he hekey
    obtain ⟨others, hperm, hfound⟩ := exists_perm_lastUnder lower none he
    have hsame := h ⟨others, file.items, file.metadata⟩ ⟨hperm, .refl _, .refl _⟩ (.property p.1)
    refine hsame.symm.trans ?_
    show (buildState functions _ a).properties.lookup (lower (trimmed p.1)) = _
    rw [htrimmed, lookup_properties_buildState, lastUnder_of_absent hunset, ← hekey]
    exact hfound
  exact Option.some.inj ((hlast p hp rfl).symm.trans (hlast q hq hkey.symm))

theorem OrderFree.items (h : OrderFree functions file a) {i j : String × List String}
    (hi : i ∈ file.items) (hj : j ∈ file.items) (hkey : lower i.1 = lower j.1) :
    i.2 ++ j.2 = j.2 ++ i.2 := by
  by_cases hij : i = j
  · rw [hij]
  have hread : ∀ others, file.items.Perm others →
      (buildState functions ⟨file.properties, others, file.metadata⟩ a).itemsOf i.1 =
        (buildState functions file a).itemsOf i.1 := by
    intro others hperm
    refine Bag.itemsOf_eq_of_itemList? fun rest => ?_
    exact h ⟨file.properties, others, file.metadata⟩ ⟨.refl _, hperm, .refl _⟩ (.items i.1 rest)
  -- the two come first, one way round and the other
  have hrest : j ∈ file.items.erase i := (List.mem_erase_of_ne (Ne.symm hij)).mpr hj
  have hfirst : file.items.Perm (i :: j :: (file.items.erase i).erase j) :=
    (List.perm_cons_erase hi).trans ((List.perm_cons_erase hrest).cons i)
  have hswap := (hread _ hfirst).trans (hread _ (hfirst.trans (.swap j i _))).symm
  rw [itemsOf_buildState, itemsOf_buildState] at hswap
  have hlists := List.append_cancel_right hswap
  rw [List.flatMap_cons, List.flatMap_cons, List.flatMap_cons, List.flatMap_cons,
    ← List.append_assoc, ← List.append_assoc] at hlists
  have hpair := List.append_cancel_right hlists
  rwa [itemsUnder, itemsUnder, if_pos rfl, if_pos hkey] at hpair

theorem OrderFree.metadata (h : OrderFree functions file a) {p q : String × String}
    (hp : p ∈ file.metadata) (hq : q ∈ file.metadata)
    (hkey : StateFile.metadataKeyOf p.1 = StateFile.metadataKeyOf q.1) : p.2 = q.2 := by
  have hlast : ∀ e ∈ file.metadata, StateFile.metadataKeyOf e.1 = StateFile.metadataKeyOf p.1 →
      (buildState functions file a).metadata? (StateFile.splitKey p.1).1
        (StateFile.splitKey p.1).2 = some e.2 := by
    intro e he hekey
    obtain ⟨others, hperm, hfound⟩ := exists_perm_lastUnder StateFile.metadataKeyOf none he
    have hsame := h ⟨file.properties, file.items, others⟩ ⟨.refl _, .refl _, hperm⟩
      (.metadata (StateFile.splitKey p.1).1 (StateFile.splitKey p.1).2)
    refine hsame.symm.trans ?_
    rw [hekey] at hfound
    show ((buildState functions _ a).metadata.lookup (StateFile.metadataKeyOf p.1)).or _ = _
    rw [lookup_metadata_buildState, hfound, Option.some_or]
  exact Option.some.inj ((hlast p hp rfl).symm.trans (hlast q hq hkey.symm))

theorem OrderFree.unambiguous (h : OrderFree functions file a) : file.Unambiguous a where
  properties _ hp _ hq := h.properties hp hq
  items _ hi _ hj := h.items hi hj
  metadata _ hp _ hq := h.metadata hp hq

/-! ## §5  The answers of a run -/

theorem answerWith_congr {m : Type → Type} [Monad m] (files : Files m) {bag bag' : Bag}
    (hlookUp : ∀ l, bag.lookUp l = bag'.lookUp l) (hfunctions : bag.functions = bag'.functions) :
    answerWith files bag = answerWith files bag' := by
  have hstate : ∀ f, (bag.register existsName f).state = (bag'.register existsName f).state := by
    intro f
    funext q
    cases q with
    | lookup l =>
        show (bag.register existsName f).lookUp l = (bag'.register existsName f).lookUp l
        rw [Bag.lookUp_register, Bag.lookUp_register, hlookUp]
    | call name arguments =>
        rw [Bag.state, Bag.state, Bag.register, Bag.register, hfunctions]
  funext q
  simp only [answerWith, hstate]

/-- **The order of a state file does not show if and only if entries that lead to the same place
say the same.** Then nothing that a run prints or answers depends on it. -/
theorem orderFree_iff_unambiguous (functions : FunctionTable) (file : StateFile) (a : Arguments) :
    (OrderFree functions file a ↔ file.Unambiguous a) ∧
      (file.Unambiguous a → ∀ other, file.Reorders other →
        ∀ (m : Type → Type) [Monad m] (files : Files m) (engine : Engine) (condition : String),
          runIn files engine (buildState functions other a) condition a =
            runIn files engine (buildState functions file a) condition a) := by
  refine ⟨⟨OrderFree.unambiguous, StateFile.Unambiguous.orderFree⟩, ?_⟩
  intro h other hother m _ files engine condition
  have hanswers := answerWith_congr files (h.orderFree other hother)
    ((functions_buildState functions other a).trans (functions_buildState functions file a).symm)
  rw [runIn, runIn, hanswers]

/-- A file with one property and items of one type under two names each: the properties agree and
the items commute. -/
theorem orderFree_agreeing_names :
    OrderFree FunctionTable.builtin
      ⟨[("Mode", "on"), ("mode", "on")], [("Compile", ["a.c"]), ("compile", ["a.c", "a.c"])], []⟩
      .none :=
  (orderFree_iff_unambiguous _ _ _).1.mpr (by decide +kernel)

/-- A file with two values for one property: the last one counts, and a condition tells them
apart. -/
theorem order_shows :
    ∃ file other,
      StateFile.read? "\x7b\"properties\": \x7b\"Mode\": \"upper\", \"mode\": \"lower\"\x7d\x7d" =
        some file ∧
      file.Reorders other ∧
      (buildState FunctionTable.builtin file .none).lookUp (.property "Mode") = some "lower" ∧
      (buildState FunctionTable.builtin other .none).lookUp (.property "Mode") = some "upper" ∧
      (Condition.evaluate .everything 32 Location.unknown "$(Mode) == lower").result
        (buildState FunctionTable.builtin file .none).state = .ok true ∧
      (Condition.evaluate .everything 32 Location.unknown "$(Mode) == lower").result
        (buildState FunctionTable.builtin other .none).state = .ok false := by
  refine ⟨⟨[("Mode", "upper"), ("mode", "lower")], [], []⟩,
    ⟨[("mode", "lower"), ("Mode", "upper")], [], []⟩, ?_, ⟨.swap _ _ _, .refl _, .refl _⟩,
    ?_, ?_, ?_, ?_⟩
  · decide +kernel
  · decide +kernel
  · decide +kernel
  · rfl
  · rfl

end

end BuildCondition.CommandLine
