import BuildCondition.Proofs.CommandLine.Arguments
import BuildCondition.Proofs.CommandLine.StateFile
import BuildCondition.Proofs.Settings
import BuildCondition.Proofs.Template.ItemBody
import Mathlib.Data.List.Nodup

/-!
# Options over a state file

Options with a value may be written in several ways, and reading them has the same effect in
whichever way that is done (§1). Those that set properties and those that add items are kept apart,
each kind in its order (§2). A property is what the last option says that names it, or else what the
state file says; items of the file and of all options add up. Neither depends on the order in which
the file is gone through, if no two of its names differ in case only (§3).
-/

namespace BuildCondition.CommandLine

open BuildCondition.Text

/-! ## §1  Ways to write an option -/

/-- The name of an option. -/
def Valued.name : Valued → List Char
  | .property => "property".toList
  | .item => "item".toList
  | .stateFile => "context".toList
  | .settingsFile => "config".toList
  | .maxDepth => "max-depth".toList

/-- The letter of an option that has one. -/
def Valued.letter? : Valued → Option Char
  | .property => some 'p'
  | .item => some 'i'
  | _ => none

/-- An argument that is no option by its looks. -/
def LooksPlain (argument : String) : Prop :=
  argument.toList.head? = some '-' → argument = "-"

instance (argument : String) : Decidable (LooksPlain argument) :=
  inferInstanceAs (Decidable (_ → _))

/-- The arguments that give an option its value. -/
inductive Writes (v : Valued) (value : String) : List String → Prop where
  | named : Writes v value [String.ofList ('-' :: '-' :: (v.name ++ '=' :: value.toList))]
  | namedApart (hplain : LooksPlain value) :
      Writes v value [String.ofList ('-' :: '-' :: v.name), value]
  | lettered {c : Char} (hc : v.letter? = some c) :
      Writes v value [String.ofList ('-' :: c :: '=' :: value.toList)]
  | letteredClose {c : Char} (hc : v.letter? = some c) (hne : value ≠ "")
      (hequals : value.toList.head? ≠ some '=') :
      Writes v value [String.ofList ('-' :: c :: value.toList)]
  | letteredApart {c : Char} (hc : v.letter? = some c) (hplain : LooksPlain value) :
      Writes v value [String.ofList ['-', c], value]

/-- The arguments that give some options their values, one after the other. -/
inductive WritesAll : List (Valued × String) → List String → Prop where
  | nil : WritesAll [] []
  | cons {v : Valued} {value : String} {arguments more : List String}
      {options : List (Valued × String)} (hfirst : Writes v value arguments)
      (hrest : WritesAll options more) : WritesAll ((v, value) :: options) (arguments ++ more)

/-- What some options ask for, one after the other. -/
def Arguments.withValues (a : Arguments) (options : List (Valued × String)) :
    Except UsageError Arguments :=
  options.foldlM (fun a o => a.withValue o.1 o.2) a

namespace Valued

variable {v : Valued} {c : Char}

theorem ofName?_name (v : Valued) : Opt.ofName? (String.ofList v.name) = some (.valued v) := by
  cases v <;> decide

theorem equals_not_mem_name (v : Valued) : '=' ∉ v.name := by
  cases v <;> decide

theorem ofLetter?_letter? (h : v.letter? = some c) :
    Opt.ofLetter? c = some (.valued v) ∧ c ≠ '-' := by
  cases v with
  | property | item =>
      cases h
      decide
  | stateFile | settingsFile | maxDepth => cases h

end Valued

theorem Arguments.condition_withValue {a a' : Arguments} {v : Valued} {value : String}
    (h : a.withValue v value = .ok a') : a'.condition = a.condition := by
  cases v with
  | property | item =>
      simp only [Arguments.withValue] at h
      split at h
      · cases h
        rfl
      · cases h
  | stateFile | settingsFile =>
      simp only [Arguments.withValue] at h
      split_ifs at h
      cases h
      rfl
  | maxDepth =>
      simp only [Arguments.withValue] at h
      split_ifs at h
      split at h
      · cases h
        rfl
      · cases h

namespace Progress

variable {p : Progress} {a a' : Arguments} {v : Valued} {value argument : String} {c : Char}
  {arguments : List String} {options : List (Valued × String)}

/-- So much has been asked for, once the pending option has been looked at; options are not over. -/
def Holds (p : Progress) (a : Arguments) : Prop :=
  p.settle = .ok ⟨a, none, false⟩

/-- Either nothing is pending, or an option is whose value is there. -/
theorem Holds.eq_or (h : p.Holds a) : p = ⟨a, none, false⟩ ∨
    ∃ asked v value, p = ⟨asked, some (v, some value), false⟩ ∧
      asked.withValue v value = .ok a := by
  obtain ⟨asked, pending, literal⟩ := p
  match pending with
  | none =>
      cases h
      exact .inl rfl
  | some (v, none) => cases h
  | some (v, some value) =>
      obtain ⟨asked', hasked, heq⟩ := map_eq_ok.mp h
      cases heq
      exact .inr ⟨asked, v, value, rfl, hasked⟩

theorem Holds.literal_eq (h : p.Holds a) : p.literal = false := by
  rcases h.eq_or with rfl | ⟨asked, v, value, rfl, _⟩ <;> rfl

/-- Behind a double hyphen stands the condition. -/
theorem Holds.stop (h : p.Holds a) (hcondition : a.condition = none) (condition : String) :
    ["--", condition].foldlM next p =
      .ok ⟨{ a with condition := some condition }, none, true⟩ := by
  have hstop : p.next "--" = .ok { p with literal := true } := by
    rw [next, h.literal_eq]
    rfl
  have hnext : next { p with literal := true } condition =
      .ok ⟨{ a with condition := some condition }, none, true⟩ := by
    rcases h.eq_or with rfl | ⟨asked, v, value, rfl, hasked⟩
    · simp [next, plain, Progress.condition, hcondition, settle, Except.map]
    · rw [Arguments.condition_withValue hasked] at hcondition
      simp [next, plain, Progress.condition, hcondition, settle, hasked, Except.map]
  exact bind_eq_ok.mpr ⟨_, hstop, bind_eq_ok.mpr ⟨_, hnext, rfl⟩⟩

theorem Holds.attach (h : p.Holds a) (ha : a.withValue v value = .ok a') :
    p.attach v value = .ok ⟨a', none, false⟩ := by
  rw [Progress.attach, h]
  exact map_eq_ok.mpr ⟨a', ha, rfl⟩

theorem Holds.await (h : p.Holds a) : p.await v = .ok ⟨a, some (v, none), false⟩ := by
  rw [Progress.await, h]
  rfl

theorem next_named (h : p.literal = false) {cs : List Char} (hne : cs ≠ []) :
    p.next (String.ofList ('-' :: '-' :: cs)) = p.named cs := by
  obtain ⟨c, cs, rfl⟩ := List.exists_cons_of_ne_nil hne
  rw [next, h, if_neg (by decide), String.toList_ofList]
  rfl

theorem next_lettered (h : p.literal = false) (hc : c ≠ '-') (cs : List Char) :
    p.next (String.ofList ('-' :: c :: cs)) = p.lettered (c :: cs) := by
  rw [next, h, if_neg (by decide), String.toList_ofList]
  split
  · rename_i heq
    cases heq
    exact absurd rfl hc
  · rename_i heq
    cases heq
    exact absurd rfl hc
  · rename_i heq
    cases heq
    rfl
  · rename_i hno
    exact absurd rfl (hno c cs)

theorem next_plain (h : p.literal = false) (hplain : LooksPlain argument) :
    p.next argument = p.plain argument := by
  rw [next, h, if_neg (by decide)]
  have hlone : argument.toList.head? = some '-' → argument.toList = ['-'] := fun hhead => by
    rw [hplain hhead]
    rfl
  generalize argument.toList = cs at hlone
  match cs with
  | [] => rfl
  | c :: cs =>
      by_cases hc : c = '-'
      · subst hc
        rw [hlone rfl]
        rfl
      · split <;> simp_all

/-- An option that waits takes the next argument for its value. -/
theorem next_value (hplain : LooksPlain value) :
    next ⟨a, some (v, none), false⟩ value = .ok ⟨a, some (v, some value), false⟩ :=
  next_plain rfl hplain

theorem named_value (v : Valued) (value : String) (p : Progress) :
    p.named (v.name ++ '=' :: value.toList) = p.attach v value := by
  have hcut := cutAt?_append (fun c hc => ne_of_mem_of_not_mem hc v.equals_not_mem_name)
    value.toList
  simp only [named, hcut, Option.map_some, Option.getD_some, String.ofList_toList, v.ofName?_name]

theorem named_apart (v : Valued) (p : Progress) : p.named v.name = p.await v := by
  simp only [named, cutAt?_of_not_mem v.equals_not_mem_name, Option.map_none, Option.getD_none,
    v.ofName?_name]

theorem lettered_equals (hc : v.letter? = some c) (p : Progress) (value : String) :
    p.lettered (c :: '=' :: value.toList) = p.attach v value := by
  simp only [lettered, (Valued.ofLetter?_letter? hc).1, String.ofList_toList]

theorem lettered_close (hc : v.letter? = some c) (hne : value ≠ "")
    (hequals : value.toList.head? ≠ some '=') (p : Progress) :
    p.lettered (c :: value.toList) = p.attach v value := by
  rw [lettered, (Valued.ofLetter?_letter? hc).1]
  dsimp only
  split
  · rename_i hnil
    exact absurd (String.toList_eq_nil_iff.mp hnil) hne
  · rename_i hcons
    rw [hcons] at hequals
    exact absurd rfl hequals
  · rw [String.ofList_toList]

theorem lettered_apart (hc : v.letter? = some c) (p : Progress) :
    p.lettered [c] = p.await v := by
  simp only [lettered, (Valued.ofLetter?_letter? hc).1]

/-- However an option is written, it gets its value. -/
theorem Holds.foldlM_writes (h : p.Holds a) (hwrites : Writes v value arguments)
    (ha : a.withValue v value = .ok a') :
    ∃ q, arguments.foldlM next p = .ok q ∧ q.Holds a' := by
  have hattached : Holds ⟨a', none, false⟩ a' := rfl
  have hpending : Holds ⟨a, some (v, some value), false⟩ a' := map_eq_ok.mpr ⟨a', ha, rfl⟩
  cases hwrites with
  | named =>
      refine ⟨_, ?_, hattached⟩
      rw [List.foldlM_cons, next_named h.literal_eq (by simp), named_value, h.attach ha]
      rfl
  | namedApart hplain =>
      have hne : v.name ≠ [] := by cases v <;> decide
      refine ⟨_, ?_, hpending⟩
      rw [List.foldlM_cons, next_named h.literal_eq hne, named_apart, h.await]
      exact bind_eq_ok.mpr ⟨_, rfl, bind_eq_ok.mpr ⟨_, next_value hplain, rfl⟩⟩
  | lettered hc =>
      refine ⟨_, ?_, hattached⟩
      rw [List.foldlM_cons, next_lettered h.literal_eq (Valued.ofLetter?_letter? hc).2,
        lettered_equals hc, h.attach ha]
      rfl
  | letteredClose hc hne hequals =>
      refine ⟨_, ?_, hattached⟩
      rw [List.foldlM_cons, next_lettered h.literal_eq (Valued.ofLetter?_letter? hc).2,
        lettered_close hc hne hequals, h.attach ha]
      rfl
  | letteredApart hc hplain =>
      refine ⟨_, ?_, hpending⟩
      rw [List.foldlM_cons, next_lettered h.literal_eq (Valued.ofLetter?_letter? hc).2,
        lettered_apart hc, h.await]
      exact bind_eq_ok.mpr ⟨_, rfl, bind_eq_ok.mpr ⟨_, next_value hplain, rfl⟩⟩

theorem Holds.foldlM_writesAll (h : p.Holds a) (hwrites : WritesAll options arguments)
    (ha : a.withValues options = .ok a') : ∃ q, arguments.foldlM next p = .ok q ∧ q.Holds a' := by
  induction hwrites generalizing p a with
  | nil =>
      cases ha
      exact ⟨p, rfl, h⟩
  | cons hfirst hrest ih =>
      obtain ⟨a₁, ha₁, ha⟩ := bind_eq_ok.mp ha
      obtain ⟨q₁, hq₁, h₁⟩ := h.foldlM_writes hfirst ha₁
      obtain ⟨q, hq, hholds⟩ := ih h₁ ha
      refine ⟨q, ?_, hholds⟩
      rw [List.foldlM_append, hq₁]
      exact hq

end Progress

/-- Options in front of the condition, which stands behind a double hyphen. -/
theorem readArguments_of_writesAll {options : List (Valued × String)} {arguments : List String}
    {a : Arguments} (hwrites : WritesAll options arguments)
    (ha : Arguments.none.withValues options = .ok a) (hcondition : a.condition = none)
    (condition : String) :
    readArguments (arguments ++ ["--", condition]) =
      .ok (condition, { a with condition := some condition }) := by
  obtain ⟨q, hq, hholds⟩ := Progress.Holds.foldlM_writesAll (p := Progress.start) rfl hwrites ha
  refine readArguments_eq_ok.mpr ⟨⟨{ a with condition := some condition }, none, true⟩, _, ?_, rfl,
    rfl, rfl⟩
  rw [List.foldlM_append, hq]
  exact hholds.stop hcondition condition

/-! ## §2  Assignments -/

/-- An option that sets a property or adds items, with a value that is read. -/
def IsAssignment (o : Valued × String) : Prop :=
  (o.1 = .property ∨ o.1 = .item) ∧ (assignment? o.2).isSome

instance (o : Valued × String) : Decidable (IsAssignment o) :=
  inferInstanceAs (Decidable (_ ∧ _))

/-- The names and values of the options of one kind. -/
def assigned (v : Valued) (options : List (Valued × String)) : List (String × String) :=
  options.filterMap fun o => if o.1 = v then assignment? o.2 else none

/-- Properties and items are kept apart, each kind in the order of the options. -/
theorem withValues_assignments {options : List (Valued × String)}
    (h : ∀ o ∈ options, IsAssignment o) (a : Arguments) :
    a.withValues options = .ok { a with
      properties := a.properties ++ assigned .property options
      items := a.items ++ assigned .item options } := by
  induction options generalizing a with
  | nil => simp [Arguments.withValues, assigned, pure, Except.pure]
  | cons o options ih =>
      obtain ⟨⟨hkind, hvalue⟩, hoptions⟩ := List.forall_mem_cons.mp h
      obtain ⟨v, value⟩ := o
      obtain ⟨pair, hpair⟩ := Option.isSome_iff_exists.mp hvalue
      rcases hkind with rfl | rfl
      · refine bind_eq_ok.mpr ⟨{ a with properties := a.properties ++ [pair] }, ?_, ?_⟩
        · simp only [Arguments.withValue, hpair]
        · refine (ih hoptions _).trans ?_
          simp [assigned, hpair]
      · refine bind_eq_ok.mpr ⟨{ a with items := a.items ++ [pair] }, ?_, ?_⟩
        · simp only [Arguments.withValue, hpair]
        · refine (ih hoptions _).trans ?_
          simp [assigned, hpair]

theorem withValues_append (a : Arguments) (options more : List (Valued × String)) :
    a.withValues (options ++ more) = (a.withValues options).bind (·.withValues more) :=
  List.foldlM_append

/-- The state file may be named anywhere among the assignments. -/
theorem withValues_around_stateFile {before after : List (Valued × String)} {path : String}
    (h : ∀ o ∈ before ++ after, IsAssignment o) (hpath : path ≠ "") :
    Arguments.none.withValues (before ++ (.stateFile, path) :: after) = .ok { Arguments.none with
      properties := assigned .property (before ++ after)
      items := assigned .item (before ++ after)
      stateFile := some path } := by
  have hbefore := withValues_assignments (fun o ho => h o (List.mem_append_left _ ho)) .none
  have hafter := withValues_assignments fun o ho => h o (List.mem_append_right before ho)
  have hfile (a : Arguments) (ha : a.stateFile = none) :
      a.withValue .stateFile path = .ok { a with stateFile := some path } := by
    simp [Arguments.withValue, ha, hpath]
  rw [withValues_append, hbefore]
  refine bind_eq_ok.mpr ⟨_, rfl, bind_eq_ok.mpr ⟨_, hfile _ rfl, (hafter _).trans ?_⟩⟩
  simp [assigned, Arguments.none, List.filterMap_append]

/-! ## §3  What is found -/

/-- No two properties, and no two item types, have names that differ in case only. -/
structure StateFile.DistinctKeys (file : StateFile) : Prop where
  properties : (file.properties.map fun p => lower p.1).Nodup
  items : (file.items.map fun i => lower i.1).Nodup

/-- The value of the last entry with a name, in any case. -/
def lastNamed? (name : String) (entries : List (String × String)) : Option String :=
  (entries.reverse.find? fun e => lower e.1 == lower name).map Prod.snd

/-- The entries with a name, in any case. -/
def entriesNamed {α : Type} (name : String) (entries : List (String × α)) : List (String × α) :=
  entries.filter fun e => lower e.1 == lower name

/-- The parts of a text between semicolons that are not empty. -/
def partsOf (text : String) : List String :=
  ((text.toList.splitOn ';').filter fun part => !part.isEmpty).map String.ofList

/-- No transform follows the type of a list. -/
def Untransformed (rest : String) : Prop :=
  ¬arrow <+: trim rest.toList

instance (rest : String) : Decidable (Untransformed rest) :=
  inferInstanceAs (Decidable (¬_))

/-- What stands between items: a semicolon, unless a separator is told behind a comma. -/
def separator (rest : String) : String :=
  if (trim rest.toList).head? = some ',' then String.ofList (separatorOf (trim rest.toList))
  else ";"

section

variable {name type rest : String} {found : Option String} {entries : List (String × String)}
  {functions : FunctionTable} {file other : StateFile} {a : Arguments}

theorem lastUnder_eq_or :
    lastUnder lower (lower name) found entries = (lastNamed? name entries).or found := by
  induction entries using List.reverseRecOn with
  | nil => rfl
  | append_singleton entries e ih =>
      have hlast : lastNamed? name (entries ++ [e]) =
          if lower e.1 = lower name then some e.2 else lastNamed? name entries := by
        simp only [lastNamed?, List.reverse_append, List.reverse_singleton, List.singleton_append,
          List.find?_cons]
        split <;> simp_all
      rw [hlast, lastUnder, List.foldl_append, List.foldl_cons, List.foldl_nil, ← lastUnder, ih]
      by_cases he : lower name = lower e.1
      · rw [if_pos he, if_pos he.symm]
        rfl
      · rw [if_neg he, if_neg (Ne.symm he)]

theorem flatMap_itemsUnder (entries : List (String × List String)) :
    entries.flatMap (itemsUnder (lower type)) = (entriesNamed type entries).flatMap Prod.snd := by
  induction entries with
  | nil => rfl
  | cons e entries ih =>
      rw [List.flatMap_cons, ih, itemsUnder]
      by_cases he : lower type = lower e.1
      · have hcons : entriesNamed type (e :: entries) = e :: entriesNamed type entries :=
          List.filter_cons_of_pos (beq_iff_eq.mpr he.symm)
        rw [if_pos he, hcons, List.flatMap_cons]
      · have hcons : entriesNamed type (e :: entries) = entriesNamed type entries :=
          List.filter_cons_of_neg (mt beq_iff_eq.mp (Ne.symm he))
        rw [if_neg he, hcons, List.nil_append]

theorem listedItems_eq_partsOf (text : String) : listedItems text = partsOf text := by
  rw [listedItems, fields_eq_splitOn, partsOf]

theorem separatorOf_eq (rest : String) :
    String.ofList (separatorOf (trim rest.toList)) = separator rest := by
  rw [separator]
  split_ifs with hcomma
  · rfl
  · unfold separatorOf
    split
    · rename_i heq
      rw [heq] at hcomma
      exact absurd rfl hcomma
    · rfl

theorem listItems_untransformed (h : Untransformed rest) (items : List String) :
    listItems items rest.toList = String.intercalate (separator rest) items := by
  have hafter : after? ['-', '>'] (trim rest.toList) = none := by
    refine Option.eq_none_iff_forall_ne_some.mpr fun behind hbehind => h ?_
    exact ⟨behind, (after?_eq_some_iff.mp hbehind).symm⟩
  have hsplit : splitTransform (trim rest.toList) = (none, trim rest.toList) := by
    rw [splitTransform, hafter]
  rw [listItems, hsplit, ← separatorOf_eq]

/-- Items that are looked up without a transform are put side by side. -/
theorem lookUp_items_untransformed (h : Untransformed rest) (bag : Bag) (type : String) :
    (bag.lookUp (.items type rest)).getD "" =
      String.intercalate (separator rest) (bag.itemsOf type) := by
  rw [Bag.lookUp, Bag.itemList?]
  cases bag.itemsOf type with
  | nil => rfl
  | cons item items => exact listItems_untransformed h (item :: items)

/-- A property is what the last option says that names it, or else what the file says. -/
theorem property?_buildState (hkeys : file.DistinctKeys) (horder : file.Reorders other)
    (hname : trimmed name = name) :
    (buildState functions other a).property? name =
      (lastNamed? name a.properties).or (lastNamed? name file.properties) := by
  show (buildState functions other a).properties.lookup (lower (trimmed name)) = _
  have hfile : lastUnder lower (lower name) none other.properties =
      lastUnder lower (lower name) none file.properties := by
    refine (lastUnder_perm horder.properties fun p hp q hq hpkey hqkey => ?_).symm
    have heq : p = q :=
      List.inj_on_of_nodup_map hkeys.properties hp hq (hpkey.trans hqkey.symm)
    rw [heq]
  rw [hname, lookup_properties_buildState, hfile, lastUnder_eq_or, lastUnder_eq_or, Option.or_none]

/-- Items of the file come first, and then those of the options. -/
theorem itemsOf_layers (hkeys : file.DistinctKeys) (horder : file.Reorders other) (type : String) :
    (buildState functions other a).itemsOf type =
      (entriesNamed type file.items).flatMap Prod.snd ++
        (entriesNamed type a.items).flatMap fun i => partsOf i.2 := by
  have hfile : other.items.flatMap (itemsUnder (lower type)) =
      file.items.flatMap (itemsUnder (lower type)) := by
    refine (flatMap_perm horder.items fun i hi j hj => ?_).symm
    by_cases hij : i = j
    · rw [hij]
    · have hkey : lower i.1 ≠ lower j.1 := fun heq =>
        hij (List.inj_on_of_nodup_map hkeys.items hi hj heq)
      rw [itemsUnder, itemsUnder]
      by_cases hi' : lower type = lower i.1
      · rw [if_neg fun hj' => hkey (hi'.symm.trans hj'), List.append_nil, List.nil_append]
      · rw [if_neg hi', List.append_nil, List.nil_append]
  have hoptions : entriesNamed type (a.items.map fun i => (i.1, listedItems i.2)) =
      (entriesNamed type a.items).map fun i => (i.1, listedItems i.2) := by
    rw [entriesNamed, List.filter_map]
    rfl
  rw [itemsOf_buildState, hfile, flatMap_itemsUnder, flatMap_itemsUnder, hoptions, List.flatMap_map]
  simp only [listedItems_eq_partsOf]

end

/-- **Options are layered over the state file.** They may be written in any way, and the file may be
named anywhere among them. In the state of the run, whatever the order in which the file is gone
through, a property is what the last option says that names it, in any case, or else what the file
says, or else it is not set. Items of a type are those of the file and then those that the options
list, in order, with semicolons between them unless another separator is told. -/
theorem options_layer_over_file {before after : List (Valued × String)} {path : String}
    {arguments : List String} (hoptions : ∀ o ∈ before ++ after, IsAssignment o) (hpath : path ≠ "")
    (hwrites : WritesAll (before ++ (.stateFile, path) :: after) arguments) (condition : String)
    {files : Files Id} {text : String} {file : StateFile}
    (hread : Id.run (files.read path) = .ok text) (hfile : StateFile.read? text = some file)
    (hkeys : file.DistinctKeys) (engine : Engine) :
    let properties := assigned .property (before ++ after)
    let items := assigned .item (before ++ after)
    ∃ a functions, readArguments (arguments ++ ["--", condition]) = .ok (condition, a) ∧
      Id.run (bagFor files a engine) = .ok (buildState functions file a) ∧
      ∀ other, file.Reorders other →
        (∀ name, trimmed name = name →
          (buildState functions other a).lookUp (.property name) =
            (lastNamed? name properties).or (lastNamed? name file.properties)) ∧
        ∀ type rest, Untransformed rest →
          ((buildState functions other a).lookUp (.items type rest)).getD "" =
            String.intercalate (separator rest) ((entriesNamed type file.items).flatMap Prod.snd ++
              (entriesNamed type items).flatMap fun i => partsOf i.2) := by
  intro properties items
  have harguments := readArguments_of_writesAll hwrites (withValues_around_stateFile hoptions hpath)
    rfl condition
  obtain ⟨functions, hfunctions, _⟩ := Settings.exists_functions engine.usable
  refine ⟨_, functions, harguments, ?_, ?_⟩
  · have hfrom : Id.run (stateFrom files (some path)) = .ok file := by
      rw [stateFrom, Id.run_bind, hread]
      simp only [hfile]
      rfl
    rw [bagFor, Engine.functions, hfunctions]
    dsimp only
    rw [Id.run_bind, hfrom]
    rfl
  · intro other horder
    refine ⟨?_, ?_⟩
    · intro name hname
      exact property?_buildState hkeys horder hname
    · intro type rest hrest
      rw [lookUp_items_untransformed hrest, itemsOf_layers hkeys horder]

/-- The last option for a property counts, in whatever case and before the file; items that both
name follow each other, and parts that are empty are dropped. -/
theorem options_layer_over_file_mixed :
    let folder : Folder := ⟨[("state.json",
      "\x7b\"properties\": \x7b\"MODE\": \"file\", \"Name\": \"demo\"\x7d, " ++
        "\"items\": \x7b\"compile\": [\"a.c\"]\x7d\x7d")]⟩
    ∃ a bag,
      readArguments ["-p", "Mode=on", "-iCompile=b.c;;c.c", "--context=state.json", "--property",
        " mode =off", "--", "true"] = .ok ("true", a) ∧
      Id.run (bagFor folder.access a ⟨Settings.default, rfl⟩) = .ok bag ∧
      bag.lookUp (.property "mODe") = some "off" ∧
      bag.lookUp (.property "name") = some "demo" ∧
      bag.lookUp (.property "Compile") = none ∧
      (bag.lookUp (.items "Compile" "")).getD "" = "a.c;b.c;c.c" ∧
      (bag.lookUp (.items "Compile" ", ' '")).getD "" = "a.c b.c c.c" := by
  intro folder
  obtain ⟨a, functions, harguments, hbag, hfound⟩ := @options_layer_over_file
    [(.property, "Mode=on"), (.item, "Compile=b.c;;c.c")] [(.property, " mode =off")] "state.json" _
    (by decide +kernel) (by decide)
    (.cons (.letteredApart rfl (by decide)) (.cons (.letteredClose rfl (by decide) (by decide))
      (.cons .named (.cons (.namedApart (by decide)) .nil))))
    "true" folder.access _ ⟨[("MODE", "file"), ("Name", "demo")], [("compile", ["a.c"])], []⟩ rfl
    (by decide +kernel) ⟨by decide +kernel, by decide +kernel⟩ ⟨Settings.default, rfl⟩
  obtain ⟨hproperties, hitems⟩ := hfound _ ⟨.refl _, .refl _, .refl _⟩
  refine ⟨a, _, harguments, hbag, ?_, ?_, ?_, ?_, ?_⟩
  · exact (hproperties "mODe" (by decide +kernel)).trans (by decide +kernel)
  · exact (hproperties "name" (by decide +kernel)).trans (by decide +kernel)
  · exact (hproperties "Compile" (by decide +kernel)).trans (by decide +kernel)
  · exact (hitems "Compile" "" (by decide +kernel)).trans (by decide +kernel)
  · exact (hitems "Compile" ", ' '" (by decide +kernel)).trans (by decide +kernel)

end BuildCondition.CommandLine
