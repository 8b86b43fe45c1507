import BuildCondition.Condition
import BuildCondition.Proofs.Expr.Evaluation
import BuildCondition.Proofs.Grammar.Acceptance

/-!
# Conditions made of conditions

Build tools put conditions together as texts: `(a) and (b)`, `(a) or (b)`, `!(a)`. That is sound.
The tokens of the parts are found again, the expressions of the parts are moved and otherwise left
as they are (§1), and so the outcome follows from the outcomes of the parts (§2).
-/

namespace BuildCondition

open BuildCondition.Expr

/-! ## §1  The expression -/

/-- What stands before the second condition in `(a) and (b)` or `(a) or (b)`. -/
def upToSecond (op : Connective) (a : String) : String :=
  "(" ++ a ++ ") " ++ op.text ++ " ("

/-- The text `(a) and (b)` or `(a) or (b)`. -/
def joinedText (op : Connective) (a b : String) : String :=
  upToSecond op a ++ b ++ ")"

/-- The text `!(a)`. -/
def negatedText (a : String) : String :=
  "!(" ++ a ++ ")"

section Parsing

variable {mode : Mode} {n : Nat} {a b : String} {ta tb : Expr}

/-- A condition in parentheses is one operand. -/
theorem cut_group (h : Expr.parse mode n a = .ok ta) :
    ∃ d ts, d < n ∧
      (∀ rest, CutBefore mode rest ('(' :: (a.toList ++ [')'])) ts) ∧
      Derives .primary (d + 1) ts (ta.relocate (1 + ·)) := by
  obtain ⟨ts, hlex, d, hd, hderives⟩ := parse_eq_ok_iff.mp h
  exact ⟨d, _, hd, fun rest => (cutBefore_rightParen hlex rest).group,
    .group (hderives.relocate (1 + ·))⟩

theorem parse_of_cut {c : String} {ts : List Token} {d : Nat} {e : Expr}
    (hcut : CutBefore mode [] c.toList ts) (hd : d < n) (he : Derives .expr d ts e) :
    Expr.parse mode n c = .ok e := by
  have hlex := hcut.lex_eq
  rw [String.length_toList] at hlex
  exact parse_eq_ok_iff.mpr ⟨ts, hlex, d, hd, he⟩

theorem parse_joinedText (op : Connective) (ha : Expr.parse mode n a = .ok ta)
    (hb : Expr.parse mode n b = .ok tb) :
    Expr.parse mode (n + 1) (joinedText op a b) =
      .ok (.chain op (ta.relocate (1 + ·)) [tb.relocate ((upToSecond op a).length + ·)]) := by
  obtain ⟨d, ts, hd, hcut, hta⟩ := cut_group ha
  obtain ⟨d', us, hd', hcut', htb⟩ := cut_group hb
  have hop : ∀ rest, CutBefore mode rest (' ' :: (op.text.toList ++ [' '])) [⟨.connective op, 1⟩] :=
    fun rest => .spaced (Lexeme.spells_connective op) (Text.stops_cons (by decide))
  have hall := (hcut _).append ((hop _).append (hcut' []))
  rw [List.map_append, List.map_map, Token.relocate_comp] at hall
  have htext : (joinedText op a b).toList = '(' :: (a.toList ++ [')']) ++
      (' ' :: (op.text.toList ++ [' ']) ++ '(' :: (b.toList ++ [')'])) := by
    simp [joinedText, upToSecond]
  rw [← htext] at hall
  -- two steps to the right, to the second parenthesis and past it, are one to the second part
  have hoffset : (fun k => (upToSecond op a).length + k) = fun k =>
      ('(' :: (a.toList ++ [')'])).length +
        ((' ' :: (op.text.toList ++ [' '])).length + (1 + k)) := by
    funext k
    simp only [upToSecond, String.length_append, List.length_cons, List.length_append,
      List.length_nil, String.length_toList]
    rw [show "(".length = 1 from rfl, show ") ".length = 2 from rfl, show " (".length = 2 from rfl]
    omega
  have htb' := htb.relocate fun k =>
    ('(' :: (a.toList ++ [')'])).length + ((' ' :: (op.text.toList ++ [' '])).length + k)
  rw [relocate_relocate, ← hoffset] at htb'
  exact parse_of_cut hall (by omega) (.chain (.more hta.to_joined (.last htb'.to_joined)))

theorem parse_negatedText (ha : Expr.parse mode n a = .ok ta) :
    Expr.parse mode (n + 2) (negatedText a) = .ok (.not 0 (ta.relocate (2 + ·))) := by
  obtain ⟨d, ts, hd, hcut, hta⟩ := cut_group ha
  have hnot : CutBefore mode ('(' :: (a.toList ++ [')']) ++ []) ['!'] [⟨.not, 0⟩] :=
    .lexeme Lexeme.spells_not (by simp [Lexeme.EndsBefore])
  have hall := hnot.append (hcut [])
  have htext : (negatedText a).toList = ['!'] ++ '(' :: (a.toList ++ [')']) := by
    simp [negatedText]
  rw [← htext] at hall
  have hta' := hta.to_operand.relocate (1 + ·)
  rw [relocate_relocate] at hta'
  simp only [← Nat.add_assoc] at hta'
  exact parse_of_cut hall (by omega) (.to_expr (.negation hta'))

end Parsing

/-! ## §2  The outcome -/

/-- What can be told of an evaluation whatever its messages say: the questions, and the truth value
or the cause of the failure. -/
structure Outcome where
  asked : List Query
  result : Except Cause Bool

/-- The outcome of an evaluation against a state. -/
def Asking.outcome (state : BuildState) (a : Asking Bool) : Outcome :=
  ⟨(a.run state).1, (a.run state).2.mapError Failure.cause⟩

namespace Outcome

/-- The outcome of two conditions with a connective between them. The second one is reached
unless the first one settles the matter or fails. -/
def joined (op : Connective) (first second : Outcome) : Outcome :=
  match first.result with
  | .error c => ⟨first.asked, .error c⟩
  | .ok b =>
      if b = op.decisive then ⟨first.asked, .ok b⟩
      else ⟨first.asked ++ second.asked, second.result⟩

/-- The outcome of a negation. -/
def negated (o : Outcome) : Outcome :=
  ⟨o.asked, o.result.map fun b => !b⟩

end Outcome

namespace Asking

variable (state : BuildState)

theorem outcome_mapFailure {h : Failure → Failure} (hcause : ∀ f, (h f).cause = f.cause)
    (a : Asking Bool) : (a.mapFailure h).outcome state = a.outcome state := by
  unfold outcome
  rw [run_mapFailure]
  cases (a.run state).2 with
  | ok b => rfl
  | error f => simp only [mapError_error, hcause]

theorem outcome_of_sameAnywhere {a b : Asking Bool} (h : SameAnywhere a b) :
    a.outcome state = b.outcome state := by
  have hcause : ∀ f : Failure, f.anywhere.cause = f.cause := fun _ => rfl
  rw [← outcome_mapFailure state hcause a, ← outcome_mapFailure state hcause b]
  exact congrArg (outcome state) h

theorem outcome_joined (op : Connective) (a b : Asking Bool) :
    (a.bind fun x => if x = op.decisive then .ok x else b).outcome state =
      .joined op (a.outcome state) (b.outcome state) := by
  unfold outcome Outcome.joined
  rw [run_bind]
  generalize a.run state = outcome
  obtain ⟨asked, result⟩ := outcome
  cases result with
  | error f => rfl
  | ok x =>
      by_cases hx : x = op.decisive
      · simp only [if_pos hx, ok, run_done, List.append_nil, mapError_ok]
      · simp only [mapError_ok, if_neg hx]

theorem outcome_negated (a : Asking Bool) :
    (a.map fun b => !b).outcome state = (a.outcome state).negated := by
  unfold outcome Outcome.negated
  rw [map, run_bind]
  generalize a.run state = outcome
  obtain ⟨asked, result⟩ := outcome
  cases result with
  | error f => rfl
  | ok x =>
      simp only []
      rw [ok, run_done, List.append_nil]
      rfl

end Asking

section Evaluating

variable {mode : Mode} {n : Nat} {a b : String} {ta tb : Expr} {place : Location}

theorem ne_empty_of_parse (h : Expr.parse mode n a = .ok ta) : a ≠ "" := by
  rintro rfl
  obtain ⟨ts, hlex, d, _, hderives⟩ := parse_eq_ok_iff.mp h
  obtain ⟨t, us, rfl, _⟩ := hderives.opens
  cases hlex

/-- A condition that has been put together is evaluated, and every failure told its source. -/
theorem evaluate_of_parse (h : Expr.parse mode n a = .ok ta) :
    Condition.evaluate mode n place a = ta.evaluate.mapFailure fun f => f.withSource a place := by
  rw [Condition.evaluate, if_neg (ne_empty_of_parse h), Condition.parse, h]
  rfl

theorem outcome_evaluate (state : BuildState) (h : Expr.parse mode n a = .ok ta) :
    (Condition.evaluate mode n place a).outcome state = ta.evaluate.outcome state := by
  have hcause : ∀ f : Failure, (f.withSource a place).cause = f.cause := fun _ => rfl
  rw [evaluate_of_parse h]
  exact Asking.outcome_mapFailure state hcause _

/-- **Conditions compose.** What is made of conditions that can be put together can be put together
with one level more for a connective and two for a negation. Its expression is a single chain or a
negation of the moved parts, and its outcome is what the connective or the negation makes of the
outcomes of the parts. -/
theorem parse_and_outcome_of_parts (ha : Expr.parse mode n a = .ok ta)
    (hb : Expr.parse mode n b = .ok tb) :
    (∀ op, Expr.parse mode (n + 1) (joinedText op a b) =
      .ok (.chain op (ta.relocate (1 + ·)) [tb.relocate ((upToSecond op a).length + ·)])) ∧
    Expr.parse mode (n + 2) (negatedText a) = .ok (.not 0 (ta.relocate (2 + ·))) ∧
    ∀ state place,
      (∀ op, (Condition.evaluate mode (n + 1) place (joinedText op a b)).outcome state =
        .joined op ((Condition.evaluate mode n place a).outcome state)
          ((Condition.evaluate mode n place b).outcome state)) ∧
      (Condition.evaluate mode (n + 2) place (negatedText a)).outcome state =
        ((Condition.evaluate mode n place a).outcome state).negated := by
  refine ⟨fun op => parse_joinedText op ha hb, parse_negatedText ha, fun state place => ⟨?_, ?_⟩⟩
  · intro op
    rw [outcome_evaluate state (parse_joinedText op ha hb), outcome_evaluate state ha,
      outcome_evaluate state hb, evaluate_chain, othersTruth_singleton, Asking.outcome_joined,
      Asking.outcome_of_sameAnywhere state (evaluate_relocate _ ta),
      Asking.outcome_of_sameAnywhere state (evaluate_relocate _ tb)]
  · rw [outcome_evaluate state (parse_negatedText ha), outcome_evaluate state ha, evaluate_not,
      Asking.outcome_negated, Asking.outcome_of_sameAnywhere state (evaluate_relocate _ ta)]

/-- A reference and a word, joined and negated. -/
theorem parse_and_outcome_of_reference_and_word :
    ∃ ta tb, Expr.parse .propertiesOnly 1 "$(x)" = .ok ta ∧
      Expr.parse .propertiesOnly 1 "false" = .ok tb ∧
      Expr.parse .propertiesOnly 2 (joinedText .and "$(x)" "false") =
        .ok (.chain .and (ta.relocate (1 + ·))
          [tb.relocate ((upToSecond .and "$(x)").length + ·)]) ∧
      ∀ state place,
        (Condition.evaluate .propertiesOnly 3 place (negatedText "$(x)")).outcome state =
          ((Condition.evaluate .propertiesOnly 1 place "$(x)").outcome state).negated := by
  have ha : Expr.parse .propertiesOnly 1 "$(x)" = .ok (.reference 0 ⟨.property, "x"⟩) := rfl
  have hb : Expr.parse .propertiesOnly 1 "false" = .ok (.ofWord 0 "false") := rfl
  have hparts := parse_and_outcome_of_parts ha hb
  exact ⟨_, _, ha, hb, hparts.1 .and, fun state place => (hparts.2.2 state place).2⟩

end Evaluating

end BuildCondition
