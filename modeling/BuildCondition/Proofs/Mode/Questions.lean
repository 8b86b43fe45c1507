import BuildCondition.Condition
import BuildCondition.Proofs.Mode
import BuildCondition.Proofs.Template

/-!
# What a restricted condition asks for

Where only properties are allowed, items are refused when a condition is read. The references of a
quoted text are found a second time when it is filled in, by rules that are not those of the reader;
but each of them stands in the text, and the text holds no items. What is put in for a reference is
not looked at again. So an expression that mentions no items asks for none, whatever is answered.
-/

namespace BuildCondition

/-- A question about items or metadata. -/
def Query.ConcernsItems : Query → Prop
  | .lookup (.property _) => False
  | .lookup (.items _ _) => True
  | .lookup (.metadata _ _) => True
  | .call _ _ => False

open BuildCondition.Expr

theorem Reference.not_concernsItems {r : Reference} (h : r.sigil = .property) :
    ¬(Query.lookup r.lookup).ConcernsItems := by
  rw [lookup, h]
  exact id

/-- In a text without items all references are to properties. -/
theorem Template.sigil_of_mem_pieces {cs : List Char} {r : Reference}
    (h : ¬Lexeme.HoldsItems cs) (hr : .reference r ∈ pieces cs) : r.sigil = .property := by
  have hopen : [r.sigil.char, '('] <:+: cs := by
    refine List.IsInfix.trans ?_ (text_infix_of_mem_pieces hr)
    rw [Reference.toList_text]
    exact ⟨[], r.body.toList ++ [')'], rfl⟩
  cases hsigil : r.sigil with
  | property => rfl
  | items =>
      rw [hsigil] at hopen
      exact absurd (.inl hopen) h
  | metadata =>
      rw [hsigil] at hopen
      exact absurd (.inr hopen) h

namespace Expr

/-- An evaluation that asks for no items. -/
abbrev SparesItems {α : Type} (a : Asking α) : Prop :=
  a.AsksOnly fun q => ¬q.ConcernsItems

theorem sparesItems_fill {s : String} (h : ¬Lexeme.HoldsItems s.toList) :
    SparesItems (Template.fill s) :=
  (Template.fillOnto_asksOnly [] fun _ hr =>
    Reference.not_concernsItems (Template.sigil_of_mem_pieces h hr)).map _

theorem sparesItems_truthOf (n : Nat) (v : Value) : SparesItems (truthOf n v) := by
  unfold truthOf
  cases v.asBool? <;> trivial

theorem sparesItems_call (n : Nat) (name : String) (vs : List Value) :
    SparesItems (Asking.call n name vs) :=
  ⟨id, fun _ => trivial⟩

/-- Settling a chain asks for nothing. -/
theorem sparesItems_settled {op : Connective} {b : Bool} {more : Asking Value}
    (h : SparesItems more) : SparesItems (if b = op.decisive then .ok (.bool b) else more) := by
  split
  · trivial
  · exact h

mutual

theorem sparesItems_value : ∀ e : Expr, ¬e.MentionsItems → SparesItems e.value
  | literal _ _ _, _ => trivial
  | template n s, h => by
      have hplain : ¬Lexeme.HoldsItems s.toList := fun hs => h ⟨_, List.mem_singleton_self _, hs⟩
      exact (sparesItems_fill hplain).map _
  | reference n r, h => by
      have hsigil : r.sigil = .property := by
        by_contra hne
        exact h ⟨_, List.mem_singleton_self _, hne⟩
      have hlook : SparesItems (Asking.lookUp r.lookup) :=
        ⟨Reference.not_concernsItems hsigil, fun _ => trivial⟩
      exact (hlook.map _).map _
  | call n name arguments, h =>
      (sparesItems_values arguments fun e he hm =>
        h ((mentionsItems_call n name arguments).mpr ⟨e, he, hm⟩)).bind fun vs =>
          sparesItems_call (n + 1) name vs
  | not n e, h => by
      have hoperand := sparesItems_value e (mt (mentionsItems_not n e).mpr h)
      exact (hoperand.bind fun v => sparesItems_truthOf e.offset v).map _
  | comparison op left right, h => by
      obtain ⟨hleft, hright⟩ := not_or.mp (mt (mentionsItems_comparison op left right).mpr h)
      exact (sparesItems_value left hleft).bind fun _ =>
        (sparesItems_value right hright).bind fun _ => trivial
  | chain op first others, h => by
      obtain ⟨hfirst, hothers⟩ := not_or.mp (mt (mentionsItems_chain op first others).mpr h)
      have htruth := (sparesItems_value first hfirst).bind fun v =>
        sparesItems_truthOf first.offset v
      exact htruth.bind fun _ => sparesItems_settled
        (sparesItems_chainValue op others fun e he hm => hothers ⟨e, he, hm⟩)

theorem sparesItems_values : ∀ es : List Expr, (∀ e ∈ es, ¬e.MentionsItems) →
    SparesItems (values es)
  | [], _ => trivial
  | e :: es, h =>
      (sparesItems_value e (h e List.mem_cons_self)).bind fun _ =>
        (sparesItems_values es fun e' he' => h e' (List.mem_cons_of_mem e he')).map _

theorem sparesItems_chainValue (op : Connective) : ∀ es : List Expr,
    (∀ e ∈ es, ¬e.MentionsItems) → SparesItems (chainValue op es)
  | [], _ => trivial
  | e :: es, h => by
      have htruth := (sparesItems_value e (h e List.mem_cons_self)).bind fun v =>
        sparesItems_truthOf e.offset v
      exact htruth.bind fun _ => sparesItems_settled
        (sparesItems_chainValue op es fun e' he' => h e' (List.mem_cons_of_mem e he'))

end

theorem sparesItems_evaluate {e : Expr} (h : ¬e.MentionsItems) : SparesItems e.evaluate :=
  (sparesItems_value e h).bind fun v => sparesItems_truthOf e.offset v

end Expr

/-- Where only properties are allowed, an expression mentions no items. -/
theorem not_mentionsItems_of_parse {limit : Nat} {condition : String} {e : Expr}
    (h : Expr.parse .propertiesOnly limit condition = .ok e) : ¬e.MentionsItems := by
  obtain ⟨⟨n, hn⟩, d, _, hderives⟩ := ofLexed_eq_ok_iff.mp h
  rw [hderives.mentionsItems]
  rcases lexAt_restricted 0 condition.toList with ⟨hsame, hnone⟩ | hbreaks
  · rw [show lex .propertiesOnly condition.toList = lex .everything condition.toList from hsame]
    rintro ⟨t, ht, hmentions⟩
    exact hnone t ht hmentions
  · obtain ⟨ts, tail, f, hbroken, _⟩ := hbreaks
    rw [show lex .propertiesOnly condition.toList = ⟨ts, .error f⟩ from hbroken] at hn
    cases hn

/-- **Where only properties are allowed, nobody is asked for items or metadata**: not on any path
that the answers may make an evaluation take, and so not in a run against any state. -/
theorem evaluate_propertiesOnly_sparesItems (limit : Nat) (place : Location) (condition : String) :
    (Condition.evaluate .propertiesOnly limit place condition).AsksOnly
        (fun q => ¬q.ConcernsItems) ∧
      ∀ state, ∀ q ∈ ((Condition.evaluate .propertiesOnly limit place condition).run state).1,
        ¬q.ConcernsItems := by
  have hspares : SparesItems (Condition.evaluate .propertiesOnly limit place condition) := by
    unfold Condition.evaluate
    split
    · trivial
    · unfold Condition.parse
      cases hparse : Expr.parse .propertiesOnly limit condition with
      | error f => trivial
      | ok e => exact (sparesItems_evaluate (not_mentionsItems_of_parse hparse)).mapFailure _
  exact ⟨hspares, hspares.of_run⟩

end BuildCondition
