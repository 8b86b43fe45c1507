import BuildCondition.Proofs.Bag.Transform
import BuildCondition.Proofs.CommandLine.StateFile
import BuildCondition.Proofs.Lexeme.Balance
import BuildCondition.Proofs.Quoting
import BuildCondition.Proofs.Template.ItemBody

/-!
# Item lists with a transform and a separator

Between the name of a type and the end of an item list stand a transform and a separator, in quotes.
What is in quotes may hold parentheses, commas and arrows; the list is one lexeme all the same, and
the name ends at the first arrow (§1). The items under a name are those that were added under it in
any ASCII case, in order, whatever else was done to the state (§2). So the value of a list is what
its transform and separator say (§3).
-/

namespace BuildCondition

open BuildCondition.Text

/-! ## §1  Reading -/

section Reading

variable {name template separator body cs rest : List Char}

/-- A list ends where its parenthesis is closed, whatever stands behind it. -/
theorem Lexeme.spells_items (h : Reference.ClosesBehind true false 0 body) :
    Lexeme.Spells .everything ('@' :: '(' :: (body ++ [')']))
      (.reference ⟨.items, String.ofList body⟩) := by
  refine ⟨(toList_source_reference .items body).symm, '@', '(' :: (body ++ [')']), rfl, by decide,
    fun rest _ => ?_⟩
  have hclosing : Reference.closing? true false 0 0 (body ++ ')' :: rest) = some body.length :=
    Reference.closing?_eq_some_iff.mpr ⟨body, rest, rfl, (Nat.zero_add _).symm, h⟩
  have hread : readItems .everything ('(' :: (body ++ ')' :: rest)) =
      .ok (referenceUpTo .items body.length (body ++ ')' :: rest)) := by
    rw [readItems, if_neg (by decide)]
    simp only [hclosing]
  rw [List.cons_append, List.append_assoc]
  refine hread.trans ?_
  rw [referenceUpTo, List.take_left]

/-- A list whose parenthesis is closed at its end is one lexeme. -/
theorem lex_items {s : String} (h : Reference.ClosesBehind true false 0 s.toList) :
    lex .everything (Reference.text ⟨.items, s⟩).toList =
      ⟨[⟨.reference ⟨.items, s⟩, 0⟩], .ok (Reference.text ⟨.items, s⟩).length⟩ := by
  have hspells := Lexeme.spells_items h
  rw [String.ofList_toList] at hspells
  have hcut : CutBefore .everything [] (Reference.text ⟨.items, s⟩).toList
      [⟨.reference ⟨.items, s⟩, 0⟩] := by
    rw [Reference.toList_text]
    exact .lexeme hspells trivial
  rw [hcut.lex_eq, String.length_toList]

theorem closesBehind_writtenTransform (hname : ∀ c ∈ name, isNameChar c = true)
    (htemplate : '\'' ∉ template) (hseparator : '\'' ∉ separator) :
    Reference.ClosesBehind true false 0 (name ++ writtenTransform template separator) := by
  have hplain : ∀ c ∈ name, c ≠ '\'' ∧ c ≠ '(' ∧ c ≠ ')' := fun c hc =>
    ⟨ne_of_isNameChar (hname c hc) (by decide), ne_of_isNameChar (hname c hc) (by decide),
      ne_of_isNameChar (hname c hc) (by decide)⟩
  have harrow : ∀ c ∈ ['-', '>'], c ≠ '\'' ∧ c ≠ '(' ∧ c ≠ ')' := by simp
  have hcomma : ∀ c ∈ [',', ' '], c ≠ '\'' ∧ c ≠ '(' ∧ c ≠ ')' := by simp
  rw [Reference.closesBehind_append hplain, writtenTransform]
  -- the arrow and the template in its quotes
  refine (Reference.closesBehind_append harrow).mpr ?_
  rw [Reference.closesBehind_quote ⟨rfl, rfl⟩, Bool.not_false,
    Reference.closesBehind_inQuote_append htemplate, Reference.closesBehind_quote ⟨rfl, rfl⟩,
    Bool.not_true, writtenSeparator]
  -- the comma and the separator in its quotes
  refine (Reference.closesBehind_append hcomma).mpr ?_
  rw [Reference.closesBehind_quote ⟨rfl, rfl⟩, Bool.not_false,
    Reference.closesBehind_inQuote_append hseparator, Reference.closesBehind_quote ⟨rfl, rfl⟩,
    Reference.closesBehind_nil]
  exact ⟨rfl, rfl⟩

/-- The name of a list ends at its transform. -/
theorem splitItems_written (hname : ∀ c ∈ name, isNameChar c = true) :
    splitItems (name ++ writtenTransform template separator) =
      (name, writtenTransform template separator) := by
  have hbare := bare_writtenTransform template separator
  have harrow : arrow <+: writtenTransform template separator := ⟨_, rfl⟩
  have hdivides : DividesBody (name ++ writtenTransform template separator) [] name []
      (writtenTransform template separator) := by
    refine ⟨rfl, List.forall_mem_nil _, hname, List.forall_mem_nil _, hbare.front,
      fun _ _ => .inl harrow, ?_⟩
    rintro front back rfl hne hback
    -- a hyphen at the end of the name has the hyphen of the arrow behind it
    have hbackname : ∀ c ∈ back, isNameChar c = true := fun c hc =>
      hname c (List.mem_append_right front hc)
    have hhead := (eq_hyphen_of_arrow_isPrefix hbackname hne hback).2
    cases hhead
  exact hdivides.splitItems_eq fun _ => rfl

end Reading

/-! ## §2  Items that were added -/

/-- Whether two names differ in the case of ASCII letters at most. -/
def SameLetters (s s' : String) : Prop :=
  s.toList.map Char.toLower = s'.toList.map Char.toLower

instance (s s' : String) : Decidable (SameLetters s s') :=
  inferInstanceAs (Decidable (_ = _))

namespace Bag

/-- The item that a change adds under a name, in any ASCII case. -/
def itemAdded? (type : String) : Change → Option String
  | .addItem other item => if SameLetters other type then some item else none
  | _ => none

theorem itemsOf_apply {bag : Bag} {type : String} {change : Change}
    (h : ∀ other item, change = .addItem other item →
      SameLetters other type ∨ lower other ≠ lower type) :
    (bag.apply change).itemsOf type = bag.itemsOf type ++ (itemAdded? type change).toList := by
  cases change with
  | addItem other item =>
      rw [apply, CommandLine.itemsOf_addItem, CommandLine.itemsUnder, itemAdded?]
      by_cases hsame : SameLetters other type
      · rw [if_pos (lower_eq_of_map_toLower hsame).symm, if_pos hsame]
        rfl
      · have hother := (h other item rfl).resolve_left hsame
        rw [if_neg hother.symm, if_neg hsame]
        rfl
  | setProperty name value => exact (List.append_nil _).symm
  | setMetadata item name value => exact (List.append_nil _).symm
  | register name f => exact (List.append_nil _).symm

/-- The items under a name add up in the order in which they were added. -/
theorem itemsOf_applyAll {bag : Bag} {type : String} {changes : List Change}
    (h : ∀ other item, .addItem other item ∈ changes →
      SameLetters other type ∨ lower other ≠ lower type) :
    (bag.applyAll changes).itemsOf type =
      bag.itemsOf type ++ changes.filterMap (itemAdded? type) := by
  induction changes generalizing bag with
  | nil => exact (List.append_nil _).symm
  | cons change changes ih =>
      have hfirst : (bag.apply change).itemsOf type =
          bag.itemsOf type ++ (itemAdded? type change).toList :=
        itemsOf_apply fun other item heq => h other item (heq ▸ List.mem_cons_self)
      have hrest := @ih (bag.apply change) fun other item hmem =>
        h other item (List.mem_cons_of_mem _ hmem)
      refine hrest.trans ?_
      rw [hfirst, List.append_assoc, List.filterMap_cons]
      cases itemAdded? type change <;> rfl

/-- What is found for a list is the text of its items, and nothing if there are none. -/
theorem found_written (bag : Bag) (type : String) {template separator : List Char}
    {pieces : List (List Char)} (htemplate : '\'' ∉ template) (hseparator : '\'' ∉ separator)
    (hpieces : CutAtMarks template pieces) :
    Template.found bag.state
        (.items type (String.ofList (writtenTransform template separator))) =
      separator.intercalate
        ((bag.itemsOf type).map fun item => item.toList.intercalate pieces) := by
  show ((bag.itemList? type (String.ofList _)).getD "").toList = _
  rw [itemList?, String.toList_ofList]
  cases bag.itemsOf type with
  | nil => rfl
  | cons item items => exact listItems_written _ htemplate hseparator hpieces

end Bag

/-! ## §3  Values -/

/-- **A transform and a separator are applied as they are written.** The list is one lexeme. Its value
is what was added under its name, each item in the places of the marks, with the separator between
them and the escapes resolved. Names with another lower case form are those of other lists. -/
theorem transformed_list_reads_as_written {type template separator : String}
    (hname : ∀ c ∈ type.toList, isNameChar c = true) (htemplate : '\'' ∉ template.toList)
    (hseparator : '\'' ∉ separator.toList) (functions : FunctionTable)
    {changes : List Bag.Change}
    (hothers : ∀ other item, .addItem other item ∈ changes →
      SameLetters other type ∨ lower other ≠ lower type) (limit : Nat) :
    let rest := "->'" ++ template ++ "', '" ++ separator ++ "'"
    let condition := "@(" ++ type ++ rest ++ ")"
    let bag := (Bag.withFunctions functions).applyAll changes
    let items := changes.filterMap (Bag.itemAdded? type)
    tokenize .everything condition =
        .ok [.token ⟨.reference ⟨.items, type ++ rest⟩, 0⟩, .endOfInput condition.length] ∧
      ∃ pieces, CutAtMarks template.toList pieces ∧
        (∀ others, CutAtMarks template.toList others → others = pieces) ∧
        ∃ e, Expr.parse .everything (limit + 1) condition = .ok e ∧
          e.value.run bag.state = ([.lookup (.items type rest)],
            .ok (.text (String.ofList (Percent.unescape (separator.toList.intercalate
              (items.map fun item => item.toList.intercalate pieces)))))) := by
  intro rest condition bag items
  have hrest : rest.toList = writtenTransform template.toList separator.toList := by
    simp [rest, writtenTransform, writtenSeparator]
  have hbody : (type ++ rest).toList =
      type.toList ++ writtenTransform template.toList separator.toList := by
    rw [String.toList_append, hrest]
  have hcondition : condition = Reference.text ⟨.items, type ++ rest⟩ := by
    refine String.toList_inj.mp ?_
    rw [Reference.toList_text]
    simp [condition, Sigil.char]
  -- one lexeme
  have hcloses : Reference.ClosesBehind true false 0 (type ++ rest).toList := by
    rw [hbody]
    exact closesBehind_writtenTransform hname htemplate hseparator
  have hlex := lex_items hcloses
  rw [← hcondition] at hlex
  -- the lookup and its answer
  have hlookup : Reference.lookup ⟨.items, type ++ rest⟩ = .items type rest := by
    show Lookup.items _ _ = _
    rw [hbody, splitItems_written hname, String.ofList_toList, ← hrest, String.ofList_toList]
  have hitems : bag.itemsOf type = items :=
    (Bag.itemsOf_applyAll hothers).trans (List.nil_append items)
  obtain ⟨pieces, hpieces⟩ := exists_cutAtMarks template.toList
  have hfound : Template.found bag.state (.items type rest) =
      separator.toList.intercalate (items.map fun item => item.toList.intercalate pieces) := by
    rw [← hitems, ← bag.found_written type htemplate hseparator hpieces, ← hrest,
      String.ofList_toList]
  refine ⟨tokenize_eq_single_iff.mpr hlex, pieces, hpieces, fun others h => h.unique hpieces,
    .reference 0 ⟨.items, type ++ rest⟩, parse_of_lex hlex rfl limit, ?_⟩
  rw [run_value_reference, hlookup, hfound]

/-- A name that ends in a hyphen, an item that looks like the mark, and parentheses, an arrow and an
escape in quotes. -/
theorem transformed_list_reads_as_written_marks :
    let changes : List Bag.Change := [.addItem "A-" "x", .addItem "b" "y",
      .setProperty "a-" "z", .addItem "a-" "%(Identity)"]
    let condition := "@(a-->'(%(IDENTITY))->%2c', ',)')"
    (∀ c ∈ "a-".toList, isNameChar c = true) ∧ '\'' ∉ "(%(IDENTITY))->%2c".toList ∧
      '\'' ∉ ",)".toList ∧
      (∀ other item, .addItem other item ∈ changes →
        SameLetters other "a-" ∨ lower other ≠ lower "a-") ∧
      tokenize .everything condition = .ok
        [.token ⟨.reference ⟨.items, "a-->'(%(IDENTITY))->%2c', ',)'"⟩, 0⟩, .endOfInput 33] ∧
      ∃ e, Expr.parse .everything 1 condition = .ok e ∧
        e.value.result (Bag.empty.applyAll changes).state =
          .ok (.text "(x)->,,)(%(Identity))->,") := by
  intro changes condition
  have hname : ∀ c ∈ "a-".toList, isNameChar c = true := List.all_eq_true.mp (by decide)
  have htemplate : '\'' ∉ "(%(IDENTITY))->%2c".toList := by decide
  have hseparator : '\'' ∉ ",)".toList := by decide
  have hothers : ∀ other item, .addItem other item ∈ changes →
      SameLetters other "a-" ∨ lower other ≠ lower "a-" := by
    intro other item hmem
    simp only [changes, List.mem_cons, Bag.Change.addItem.injEq, reduceCtorEq, false_or,
      List.not_mem_nil, or_false] at hmem
    rcases hmem with ⟨rfl, _⟩ | ⟨rfl, _⟩ | ⟨rfl, _⟩ <;> decide +kernel
  obtain ⟨htokens, pieces, _, hunique, e, he, hrun⟩ := transformed_list_reads_as_written hname
    htemplate hseparator FunctionTable.builtin hothers 0
  have hbefore : ¬HasMark "(".toList := not_hasMark_of_length_lt (by decide)
  have hbehind : ¬HasMark ")->%2c".toList := not_hasMark_of_length_lt (by decide)
  have hmark : IsMark "%(IDENTITY)".toList := by decide
  have hcut : CutAtMarks "(%(IDENTITY))->%2c".toList (["(".toList] ++ [")->%2c".toList]) :=
    .mark hmark (.whole hbefore) (.whole hbehind)
  obtain rfl := hunique _ hcut
  refine ⟨hname, htemplate, hseparator, hothers, htokens, e, he, ?_⟩
  refine (congrArg Prod.snd hrun).trans ?_
  exact congrArg (fun text : String => Except.ok (Value.text text)) (by decide +kernel)

end BuildCondition
