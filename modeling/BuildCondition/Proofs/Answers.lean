import BuildCondition.Proofs.Consultation

/-!
# What a result depends on

Whoever remembers the answers that a condition was evaluated with may reuse the result as long as
these answers are the same, for nothing else goes into it. So two evaluations are compared, against
two hosts of whom one repeats the answers of the other as far as these have been asked for (§1).
Each part of an evaluation asks the same of both and comes to the same: this is shown on the trees
of expressions (§2), and holds of whole conditions (§3).
-/

namespace BuildCondition

/-! ## §1  The same answers -/

/-- `host'` answers every question that has been asked of `host` as `host` did when it came up. -/
def Repeats (host' host : Host) (asked : List Query) : Prop :=
  ∀ past q, past ++ [q] <+: asked → host' past q = host past q

variable {host host' : Host}

/-- Less that has been asked is easier to repeat. -/
theorem Repeats.mono {asked asked' : List Query} (h : Repeats host' host asked)
    (hasked : asked' <+: asked) : Repeats host' host asked' :=
  fun past q hq => h past q (hq.trans hasked)

/-- What is done against a host forgets nothing that has been asked, and depends on nothing but the
answers: it asks another host the same and comes to the same, if that one repeats them. -/
structure DependsOnAnswers {α : Type} (act : Host → Consultation α) : Prop where
  extends_asked : ∀ host asked, asked <+: (act host asked).1
  same : ∀ host host' asked, Repeats host' host (act host asked).1 →
    act host' asked = act host asked

namespace DependsOnAnswers

variable {α β : Type}

/-- Whatever is done without the host. -/
theorem of_settled (result : Except Failure α) :
    DependsOnAnswers fun _ => Consultation.conclude result where
  extends_asked _ asked := List.prefix_refl asked
  same _ _ _ _ := rfl

theorem pure (x : α) : DependsOnAnswers fun _ => (Pure.pure x : Consultation α) :=
  of_settled (.ok x)

theorem query (q : Query) : DependsOnAnswers fun host => Consultation.query host q where
  extends_asked _ asked := List.prefix_append asked [q]
  same host host' asked h := by
    have hanswer : host' asked q = host asked q := h asked q (List.prefix_refl _)
    rw [Consultation.query, Consultation.query, hanswer]

/-- If the first part has failed, the next one is not asked anything; else it goes on with the same
result behind the same questions. -/
theorem bind {first : Host → Consultation α} {next : Host → α → Consultation β}
    (h : DependsOnAnswers first) (hnext : ∀ x, DependsOnAnswers fun host => next host x) :
    DependsOnAnswers fun host => first host >>= next host where
  extends_asked host asked := by
    have hfirst := h.extends_asked host asked
    cases hrun : first host asked with
    | mk asked' result =>
        rw [hrun] at hfirst
        cases result with
        | error f =>
            rw [Consultation.bind_of_error hrun]
            exact hfirst
        | ok x =>
            rw [Consultation.bind_of_ok hrun]
            exact hfirst.trans ((hnext x).extends_asked host asked')
  same host host' asked hrepeats := by
    have hfirst := h.same host host' asked
    cases hrun : first host asked with
    | mk asked' result =>
        rw [hrun] at hfirst
        cases result with
        | error f =>
            rw [Consultation.bind_of_error hrun] at hrepeats ⊢
            exact Consultation.bind_of_error (hfirst hrepeats)
        | ok x =>
            rw [Consultation.bind_of_ok hrun] at hrepeats ⊢
            -- what the first part has asked is repeated as well
            have hearlier := hrepeats.mono ((hnext x).extends_asked host asked')
            rw [Consultation.bind_of_ok (hfirst hearlier)]
            exact (hnext x).same host host' asked' hrepeats

theorem mapFailure {act : Host → Consultation α} (h : DependsOnAnswers act)
    (f : Failure → Failure) : DependsOnAnswers fun host => (act host).mapFailure f where
  extends_asked := h.extends_asked
  same host host' asked hrepeats := by
    rw [Consultation.mapFailure, Consultation.mapFailure, h.same host host' asked hrepeats]

theorem lookUp (l : Lookup) : DependsOnAnswers fun host => Consultation.lookUp host l :=
  (query (.lookup l)).bind fun answer => pure (Option.getD answer "")

end DependsOnAnswers

/-! ## §2  Expressions -/

theorem Template.dependsOnAnswers_fillFrom (done : List Char) (covered : Nat) (cs : List Char) :
    DependsOnAnswers fun host => fillFrom host done covered cs := by
  induction cs generalizing done covered with
  | nil => exact .pure _
  | cons c cs ih =>
      cases covered with
      | succ covered => exact ih done covered
      | zero =>
          simp only [fillFrom]
          cases Reference.startingWith? c cs with
          | none => exact ih _ _
          | some r => exact (DependsOnAnswers.lookUp r.lookup).bind fun raw => ih _ _

theorem Template.dependsOnAnswers_fillWith (text : String) :
    DependsOnAnswers fun host => fillWith host text :=
  (dependsOnAnswers_fillFrom [] 0 text.toList).bind fun _ => .pure _

namespace Expr

theorem dependsOnAnswers_truthWith (offset : Nat) (v : Value) :
    DependsOnAnswers fun _ => truthWith offset v := by
  unfold truthWith
  cases v.asBool? with
  | some b => exact .pure b
  | none => exact .of_settled _

/-- If a truth value settles a chain, nothing else is asked. -/
theorem dependsOnAnswers_settled (op : Connective) (b : Bool) {more : Host → Consultation Value}
    (h : DependsOnAnswers more) :
    DependsOnAnswers fun host => if b = op.decisive then return .bool b else more host := by
  by_cases hsettled : b = op.decisive
  · simp only [if_pos hsettled]
    exact .pure _
  · simp only [if_neg hsettled]
    exact h

mutual

theorem dependsOnAnswers_value : ∀ e : Expr, DependsOnAnswers fun host => valueWith host e
  | literal _ v _ => .pure v
  | template _ s => (Template.dependsOnAnswers_fillWith s).bind fun _ => .pure _
  | reference _ r => (DependsOnAnswers.lookUp r.lookup).bind fun _ => .pure _
  | call _ name arguments =>
      (dependsOnAnswers_values arguments).bind fun vs =>
        (DependsOnAnswers.query (.call name vs)).bind fun _ => .of_settled _
  | not _ e =>
      (dependsOnAnswers_value e).bind fun v =>
        (dependsOnAnswers_truthWith e.offset v).bind fun _ => .pure _
  | comparison _ left right =>
      (dependsOnAnswers_value left).bind fun _ =>
        (dependsOnAnswers_value right).bind fun _ => .of_settled _
  | chain op first others =>
      (dependsOnAnswers_value first).bind fun v =>
        (dependsOnAnswers_truthWith first.offset v).bind fun b =>
          dependsOnAnswers_settled op b (dependsOnAnswers_chain op others)

theorem dependsOnAnswers_values :
    ∀ es : List Expr, DependsOnAnswers fun host => valuesWith host es
  | [] => .pure []
  | e :: es =>
      (dependsOnAnswers_value e).bind fun _ => (dependsOnAnswers_values es).bind fun _ => .pure _

theorem dependsOnAnswers_chain (op : Connective) :
    ∀ es : List Expr, DependsOnAnswers fun host => chainWith host op es
  | [] => .pure _
  | e :: es =>
      (dependsOnAnswers_value e).bind fun v =>
        (dependsOnAnswers_truthWith e.offset v).bind fun b =>
          dependsOnAnswers_settled op b (dependsOnAnswers_chain op es)

end

end Expr

/-! ## §3  Conditions -/

theorem Condition.dependsOnAnswers_evaluateWith (mode : Mode) (limit : Nat) (place : Location)
    (condition : String) :
    DependsOnAnswers fun host => Condition.evaluateWith host mode limit place condition := by
  unfold Condition.evaluateWith
  by_cases hempty : condition = ""
  · simp only [if_pos hempty]
    exact .pure true
  · simp only [if_neg hempty]
    exact DependsOnAnswers.mapFailure ((DependsOnAnswers.of_settled _).bind fun e =>
      (Expr.dependsOnAnswers_value e).bind fun v =>
        Expr.dependsOnAnswers_truthWith e.offset v) _

variable (mode : Mode) (limit : Nat) (place : Location) (condition : String)

/-- **A result depends only on what was asked.** A condition is evaluated against a host as its
expression is gone through. If all that it asks of one host is answered in the same way by another
one, the other one is asked the same in the same order, and the outcome is the same truth value or
failure. So it is for two states of the build, whose answers do not change. -/
theorem evaluate_depends_on_answers :
    (∀ (host : Host) (asked : List Query),
      Condition.evaluateWith host mode limit place condition asked =
        (Condition.evaluate mode limit place condition).converse host asked) ∧
    (∀ host host' : Host,
      Repeats host' host (Condition.evaluateWith host mode limit place condition []).1 →
      Condition.evaluateWith host' mode limit place condition [] =
        Condition.evaluateWith host mode limit place condition []) ∧
    ∀ state state' : BuildState,
      (∀ q ∈ ((Condition.evaluate mode limit place condition).run state).1, state' q = state q) →
      (Condition.evaluate mode limit place condition).run state' =
        (Condition.evaluate mode limit place condition).run state := by
  have hsame := (Condition.dependsOnAnswers_evaluateWith mode limit place condition).same
  refine ⟨fun host => Condition.evaluateWith_eq host mode limit place condition,
    fun host host' => hsame host host' [], fun state state' h => ?_⟩
  have hstates := hsame (fun _ => state) (fun _ => state') []
  simp only [Condition.evaluateWith_eq, Asking.converse_state, List.nil_append] at hstates
  exact hstates fun past q hq => h q (hq.subset (List.mem_append_right past List.mem_cons_self))

/-- What a function is called with comes from a lookup, and the operand behind the one that settles
the condition is not asked for, so that it may be anything. -/
theorem evaluate_same_without_second_operand :
    ∃ state state' : BuildState,
      state' (.lookup (.property "b")) ≠ state (.lookup (.property "b")) ∧
      (Condition.evaluate .everything 50 .unknown "F($(a)) or '$(b)' == 'x'").run state =
        ([.lookup (.property "a"), .call "F" [.text "1"]], .ok true) ∧
      (Condition.evaluate .everything 50 .unknown "F($(a)) or '$(b)' == 'x'").run state' =
        (Condition.evaluate .everything 50 .unknown "F($(a)) or '$(b)' == 'x'").run state := by
  refine ⟨.answering (fun _ => some "1") (.bool true),
    .answering (fun l => if l = .property "b" then none else some "1") (.bool true),
    by decide, rfl, ?_⟩
  refine (evaluate_depends_on_answers .everything 50 .unknown _).2.2 _ _ ?_
  show ∀ q ∈ [Query.lookup (.property "a"), Query.call "F" [.text "1"]], _
  rw [List.forall_mem_cons, List.forall_mem_singleton]
  exact ⟨rfl, rfl⟩

end BuildCondition
