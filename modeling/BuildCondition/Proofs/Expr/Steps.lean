import BuildCondition.Proofs.Expr.Evaluation
import BuildCondition.Proofs.Template

/-!
# The order of evaluation

What there is to do in an expression can be listed before anything is known of the build, from left
to right and operands first (§1). A run takes the steps of that list in order. It passes over those
in a chain that is settled by an operand before them, ends with the first one that fails, and does
none of them twice (§2). How a chain ends follows from its operands (§3).
-/

namespace BuildCondition.Expr

/-! ## §1  Steps -/

/-- What is done at one place: something is looked up, a call or a comparison has its value, or what
has to be a truth value has it. -/
inductive Act where
  | lookUp (l : Lookup)
  | compute (e : Expr)
  | judge (e : Expr)

/-- Something to do, and the operands that come before it in the chains around it. -/
structure Step where
  act : Act
  past : List (Connective × Expr)

mutual

/-- The steps to the value of an expression that has `past` before it in the chains around it. -/
def stepsFrom (past : List (Connective × Expr)) : Expr → List Step
  | literal _ _ _ => []
  | template _ s =>
      (Template.references (Template.pieces s.toList)).map fun r => ⟨.lookUp r.lookup, past⟩
  | reference _ r => [⟨.lookUp r.lookup, past⟩]
  | call n name arguments =>
      stepsOfAll past arguments ++ [⟨.compute (call n name arguments), past⟩]
  | not _ e => stepsFrom past e ++ [⟨.judge e, past⟩]
  | comparison op left right =>
      stepsFrom past left ++ (stepsFrom past right ++ [⟨.compute (comparison op left right), past⟩])
  | chain op first others =>
      stepsFrom past first ++ [⟨.judge first, past⟩] ++
        stepsOfOthers op ((op, first) :: past) others

/-- The steps to the values of arguments. -/
def stepsOfAll (past : List (Connective × Expr)) : List Expr → List Step
  | [] => []
  | e :: es => stepsFrom past e ++ stepsOfAll past es

/-- The steps to the truth values of the operands of a chain, of which some are in `past`. -/
def stepsOfOthers (op : Connective) (past : List (Connective × Expr)) : List Expr → List Step
  | [] => []
  | e :: es => stepsFrom past e ++ [⟨.judge e, past⟩] ++ stepsOfOthers op ((op, e) :: past) es

end

/-- The steps to the truth value of an expression. -/
def steps (e : Expr) : List Step :=
  stepsFrom [] e ++ [⟨.judge e, []⟩]

theorem past_subset_of_mem_single {act : Act} {past : List (Connective × Expr)} {s : Step}
    (h : s ∈ [⟨act, past⟩]) : past ⊆ s.past := by
  obtain rfl := List.mem_singleton.mp h
  exact List.Subset.refl past

mutual

/-- What comes before an expression comes before everything in it. -/
theorem past_subset_of_mem_stepsFrom : ∀ (e : Expr) {past : List (Connective × Expr)} {s : Step},
    s ∈ stepsFrom past e → past ⊆ s.past
  | literal _ _ _, _, s, h => by cases h
  | template _ t, past, s, h => by
      obtain ⟨r, _, rfl⟩ := List.mem_map.mp h
      exact List.Subset.refl past
  | reference _ r, _, _, h => past_subset_of_mem_single h
  | call _ _ arguments, past, s, h => by
      rcases List.mem_append.mp h with h | h
      · exact past_subset_of_mem_stepsOfAll arguments h
      · exact past_subset_of_mem_single h
  | not _ e, past, s, h => by
      rcases List.mem_append.mp h with h | h
      · exact past_subset_of_mem_stepsFrom e h
      · exact past_subset_of_mem_single h
  | comparison _ left right, past, s, h => by
      rcases List.mem_append.mp h with h | h
      · exact past_subset_of_mem_stepsFrom left h
      · rcases List.mem_append.mp h with h | h
        · exact past_subset_of_mem_stepsFrom right h
        · exact past_subset_of_mem_single h
  | chain op first others, past, s, h => by
      rcases List.mem_append.mp h with h | h
      · rcases List.mem_append.mp h with h | h
        · exact past_subset_of_mem_stepsFrom first h
        · exact past_subset_of_mem_single h
      · exact fun _ hp => past_subset_of_mem_stepsOfOthers others h (List.mem_cons_of_mem _ hp)

theorem past_subset_of_mem_stepsOfAll : ∀ (es : List Expr) {past : List (Connective × Expr)}
    {s : Step}, s ∈ stepsOfAll past es → past ⊆ s.past
  | [], _, s, h => by cases h
  | e :: es, past, s, h => by
      rcases List.mem_append.mp h with h | h
      · exact past_subset_of_mem_stepsFrom e h
      · exact past_subset_of_mem_stepsOfAll es h

theorem past_subset_of_mem_stepsOfOthers : ∀ (es : List Expr) {op : Connective}
    {past : List (Connective × Expr)} {s : Step}, s ∈ stepsOfOthers op past es → past ⊆ s.past
  | [], _, _, s, h => by cases h
  | e :: es, op, past, s, h => by
      rcases List.mem_append.mp h with h | h
      · rcases List.mem_append.mp h with h | h
        · exact past_subset_of_mem_stepsFrom e h
        · exact past_subset_of_mem_single h
      · exact fun _ hp => past_subset_of_mem_stepsOfOthers es h (List.mem_cons_of_mem _ hp)

end

/-! ## §2  Runs -/

/-- An operand of a chain settles it. -/
def settles (state : BuildState) (operand : Connective × Expr) : Bool :=
  match operand.2.evaluate.result state with
  | .ok b => b == operand.1.decisive
  | .error _ => false

namespace Step

variable (state : BuildState)

/-- A step is passed over if a chain around it is settled before. -/
def isSkipped (s : Step) : Bool :=
  s.past.any (settles state)

/-- Looking something up never fails. -/
def fails (s : Step) : Bool :=
  match s.act with
  | .lookUp _ => false
  | .compute e => !(e.value.result state).isOk
  | .judge e => !(e.evaluate.result state).isOk

/-- What a step asks. A call asks for the result of the function, given the values of its
arguments. -/
def query? (s : Step) : Option Query :=
  match s.act with
  | .lookUp l => some (.lookup l)
  | .compute (call _ name arguments) =>
      match (values arguments).result state with
      | .ok vs => some (.call name vs)
      | .error _ => none
  | _ => none

/-- The steps that are not passed over. -/
def kept (ss : List Step) : List Step :=
  ss.filter fun s => !s.isSkipped state

/-- A list up to the first step that fails, that one included. -/
def throughFailure : List Step → List Step
  | [] => []
  | s :: ss => if s.fails state then [s] else s :: throughFailure ss

/-- What is asked if some steps are taken in order. -/
def asked (ss : List Step) : List Query :=
  (throughFailure state (kept state ss)).filterMap (query? state)

/-- None of some steps fails that is not passed over. -/
def allSucceed (ss : List Step) : Bool :=
  (kept state ss).all fun s => !s.fails state

variable {state} {ss ss' : List Step}

theorem throughFailure_append (ss ss' : List Step) :
    throughFailure state (ss ++ ss') =
      if ss.all (fun s => !s.fails state) then ss ++ throughFailure state ss'
      else throughFailure state ss := by
  induction ss with
  | nil => rfl
  | cons s ss ih =>
      rw [List.cons_append, throughFailure, throughFailure, List.all_cons]
      cases s.fails state with
      | true => rfl
      | false =>
          simp only [ih, Bool.false_eq_true, if_false, Bool.not_false, Bool.true_and]
          split <;> rfl

theorem throughFailure_eq_self (h : ss.all (fun s => !s.fails state) = true) :
    throughFailure state ss = ss := by
  have happend : throughFailure state (ss ++ []) = _ := throughFailure_append ss []
  rw [List.append_nil, if_pos h] at happend
  rw [happend]
  exact List.append_nil ss

theorem asked_append (ss ss' : List Step) :
    asked state (ss ++ ss') =
      if allSucceed state ss then asked state ss ++ asked state ss' else asked state ss := by
  unfold asked allSucceed kept
  rw [List.filter_append, throughFailure_append]
  split
  · rename_i h
    rw [List.filterMap_append, throughFailure_eq_self h]
  · rfl

theorem allSucceed_append (ss ss' : List Step) :
    allSucceed state (ss ++ ss') = (allSucceed state ss && allSucceed state ss') := by
  unfold allSucceed kept
  rw [List.filter_append, List.all_append]

theorem kept_eq_nil (h : ∀ s ∈ ss, s.isSkipped state = true) : kept state ss = [] := by
  refine List.filter_eq_nil_iff.mpr fun s hs => ?_
  rw [h s hs]
  decide

theorem kept_eq_self (h : ∀ s ∈ ss, s.isSkipped state = false) : kept state ss = ss := by
  refine List.filter_eq_self.mpr fun s hs => ?_
  rw [h s hs]
  rfl

end Step

/-- A run of an evaluation takes some steps: it asks what they ask, and fails if one of them
does. -/
structure Takes {α : Type} (state : BuildState) (a : Asking α) (ss : List Step) : Prop where
  asked : (a.run state).1 = Step.asked state ss
  isOk : (a.result state).isOk = Step.allSucceed state ss

namespace Takes

variable {α β : Type} {state : BuildState} {a : Asking α} {ss ss' : List Step}

theorem bind {next : α → Asking β} (h : Takes state a ss)
    (hnext : ∀ x, a.result state = .ok x → Takes state (next x) ss') :
    Takes state (a.bind next) (ss ++ ss') := by
  constructor
  · rw [Asking.run_bind, Step.asked_append, ← h.asked, ← h.isOk, Asking.result]
    cases hrun : a.run state with
    | mk queries result =>
        cases result with
        | error f => rfl
        | ok x =>
            have hx : a.result state = .ok x := congrArg Prod.snd hrun
            show queries ++ ((next x).run state).1 = queries ++ Step.asked state ss'
            rw [(hnext x hx).asked]
  · rw [Asking.result_bind, Step.allSucceed_append, ← h.isOk]
    cases hx : a.result state with
    | error f => rfl
    | ok x => exact (hnext x hx).isOk.trans (Bool.true_and _).symm

theorem ok (x : α) (h : ∀ s ∈ ss, s.isSkipped state = true) : Takes state (.ok x) ss := by
  constructor
  · rw [Step.asked, Step.kept_eq_nil h]
    rfl
  · rw [Step.allSucceed, Step.kept_eq_nil h]
    rfl

theorem map (h : Takes state a ss) (f : α → β) : Takes state (a.map f) ss := by
  have hnone : ∀ s ∈ ([] : List Step), s.isSkipped state = true := fun s hs => by cases hs
  have hmap := h.bind fun x _ => ok (f x) hnone
  rwa [List.append_nil] at hmap

theorem single {s : Step} (hopen : s.isSkipped state = false)
    (hasked : (a.run state).1 = (s.query? state).toList)
    (hfails : (a.result state).isOk = !s.fails state) : Takes state a [s] := by
  have hkept : Step.kept state [s] = [s] := by
    refine Step.kept_eq_self fun s' hs' => ?_
    rw [List.mem_singleton.mp hs', hopen]
  constructor
  · rw [hasked, Step.asked, hkept, Step.throughFailure, Step.throughFailure]
    cases hquery : s.query? state <;> split <;> simp [hquery]
  · rw [hfails, Step.allSucceed, hkept, List.all_cons, List.all_nil, Bool.and_true]

end Takes

section Running

variable {state : BuildState} {past : List (Connective × Expr)}

/-- No operand that came before in a chain has settled it. -/
def Open (state : BuildState) (past : List (Connective × Expr)) : Prop :=
  ∀ p ∈ past, settles state p = false

theorem Open.isSkipped (h : Open state past) (act : Act) :
    Step.isSkipped state ⟨act, past⟩ = false :=
  List.any_eq_false.mpr fun p hp => by rw [h p hp]; decide

theorem Open.takes_lookUp (h : Open state past) (l : Lookup) :
    Takes state (Asking.lookUp l) [⟨.lookUp l, past⟩] :=
  .single (h.isSkipped _) rfl rfl

/-- The references of a template are looked up one after the other, and none of them fails. -/
theorem takes_fill (h : Open state past) (s : String) :
    Takes state (Template.fill s)
      ((Template.references (Template.pieces s.toList)).map fun r => ⟨.lookUp r.lookup, past⟩) := by
  generalize hlookUps : ((Template.references (Template.pieces s.toList)).map fun r =>
    (⟨.lookUp r.lookup, past⟩ : Step)) = lookUps
  have hkept : Step.kept state lookUps = lookUps := by
    refine Step.kept_eq_self fun step hstep => ?_
    rw [← hlookUps] at hstep
    obtain ⟨r, _, rfl⟩ := List.mem_map.mp hstep
    exact h.isSkipped _
  have hsucceed : (lookUps.all fun step => !step.fails state) = true := by
    refine List.all_eq_true.mpr fun step hstep => ?_
    rw [← hlookUps] at hstep
    obtain ⟨r, _, rfl⟩ := List.mem_map.mp hstep
    rfl
  constructor
  · rw [Template.run_fill, Step.asked, hkept, Step.throughFailure_eq_self hsucceed, ← hlookUps,
      List.filterMap_map]
    exact (congrFun List.filterMap_eq_map _).symm
  · rw [Asking.result, Template.run_fill, Step.allSucceed, hkept, hsucceed]
    rfl

/-- Once the value is there, the truth value is the last step. -/
theorem Takes.judge (h : Open state past) {e : Expr} {ss : List Step}
    (he : Takes state e.value ss) :
    Takes state e.evaluate (ss ++ [⟨.judge e, past⟩]) := by
  refine he.bind fun v hv => .single (h.isSkipped _) ?_ ?_
  · rw [truthOf]
    cases v.asBool? <;> rfl
  · have hresult : e.evaluate.result state = (truthOf e.offset v).result state := by
      rw [evaluate, Asking.result_bind, hv]
      rfl
    show ((truthOf e.offset v).result state).isOk = !!(e.evaluate.result state).isOk
    rw [hresult, Bool.not_not]

/-- Once the operands have their values, the comparison is the last step. -/
theorem takes_compare (h : Open state past) {op : Comparison} {left right : Expr} {v w : Value}
    (hv : left.value.result state = .ok v) (hw : right.value.result state = .ok w) :
    Takes state
      (.done ((Operand.compare op (asOperand left v) (asOperand right w)).map Value.bool))
      [⟨.compute (comparison op left right), past⟩] := by
  refine .single (h.isSkipped _) rfl ?_
  show _ = !!((comparison op left right).value.result state).isOk
  rw [result_value_comparison op hv hw, Bool.not_not]
  rfl

/-- Once the arguments have their values, the call is the last step. -/
theorem takes_call (h : Open state past) {n : Nat} {name : String} {arguments : List Expr}
    {vs : List Value} (hvs : (values arguments).result state = .ok vs) :
    Takes state (Asking.call (n + 1) name vs) [⟨.compute (call n name arguments), past⟩] := by
  refine .single (h.isSkipped _) ?_ ?_
  · have hquery : Step.query? state ⟨.compute (call n name arguments), past⟩ =
        some (.call name vs) := by
      simp only [Step.query?, hvs]
    rw [hquery]
    rfl
  · have hresult : (call n name arguments).value.result state =
        (Asking.call (n + 1) name vs).result state := by
      rw [value, Asking.result_bind, hvs]
      rfl
    show _ = !!((call n name arguments).value.result state).isOk
    rw [hresult, Bool.not_not]

theorem Open.cons (h : Open state past) {op : Connective} {e : Expr} {b : Bool}
    (he : e.evaluate.result state = .ok b) (hb : b ≠ op.decisive) :
    Open state ((op, e) :: past) := by
  intro p hp
  rcases List.mem_cons.mp hp with rfl | hp
  · rw [settles, he]
    exact beq_eq_false_iff_ne.mpr hb
  · exact h p hp

/-- Behind an operand that settles the chain, everything is passed over. -/
theorem isSkipped_of_settles {op : Connective} {e : Expr} {es : List Expr}
    (he : e.evaluate.result state = .ok op.decisive) :
    ∀ s ∈ stepsOfOthers op ((op, e) :: past) es, s.isSkipped state = true := by
  intro s hs
  have hmem := past_subset_of_mem_stepsOfOthers es hs List.mem_cons_self
  refine List.any_eq_true.mpr ⟨(op, e), hmem, ?_⟩
  rw [settles, he]
  exact beq_self_eq_true _

/-- An operand of a chain is judged, and either settles the chain or leaves it to the others. -/
theorem takes_operand (h : Open state past) {op : Connective} {e : Expr} {es : List Expr}
    (he : Takes state e.value (stepsFrom past e))
    (hothers : Open state ((op, e) :: past) →
      Takes state (chainValue op es) (stepsOfOthers op ((op, e) :: past) es)) :
    Takes state
      (e.evaluate.bind fun b => if b = op.decisive then .ok (Value.bool b) else chainValue op es)
      (stepsFrom past e ++ [⟨.judge e, past⟩] ++ stepsOfOthers op ((op, e) :: past) es) := by
  refine (he.judge h).bind fun b hb => ?_
  split
  · rename_i hdecisive
    exact .ok _ (isSkipped_of_settles (hdecisive ▸ hb))
  · rename_i hopen
    exact hothers (h.cons hb hopen)

mutual

/-- Evaluation takes the steps of an expression in order. -/
theorem takes_value : ∀ (e : Expr) {past : List (Connective × Expr)}, Open state past →
    Takes state e.value (stepsFrom past e)
  | literal _ v _, _, _ => .ok v fun s hs => by cases hs
  | template _ s, _, h => (takes_fill h s).map Value.text
  | reference _ r, _, h => ((h.takes_lookUp r.lookup).map _).map Value.text
  | call _ _ arguments, _, h => (takes_values arguments h).bind fun _ hvs => takes_call h hvs
  | not _ e, _, h => ((takes_value e h).judge h).map _
  | comparison _ left right, _, h =>
      (takes_value left h).bind fun _ hv =>
        (takes_value right h).bind fun _ hw => takes_compare h hv hw
  | chain op first others, _, h =>
      takes_operand h (takes_value first h) (takes_chainValue op others)

theorem takes_values : ∀ (es : List Expr) {past : List (Connective × Expr)}, Open state past →
    Takes state (values es) (stepsOfAll past es)
  | [], _, _ => .ok [] fun s hs => by cases hs
  | e :: es, _, h => (takes_value e h).bind fun _ _ => (takes_values es h).map _

theorem takes_chainValue (op : Connective) : ∀ (es : List Expr) {past : List (Connective × Expr)},
    Open state past → Takes state (chainValue op es) (stepsOfOthers op past es)
  | [], _, _ => .ok _ fun s hs => by cases hs
  | e :: es, _, h => takes_operand h (takes_value e h) (takes_chainValue op es)

end

theorem takes_evaluate (state : BuildState) (e : Expr) : Takes state e.evaluate e.steps := by
  have hopen : Open state [] := fun p hp => by cases hp
  exact Takes.judge hopen (takes_value e hopen)

end Running

/-! ## §3  Chains -/

/-- The first of some operands that does not leave the chain open has this result. -/
def FirstToSettle (state : BuildState) (op : Connective) (es : List Expr)
    (result : Except Failure Bool) : Prop :=
  ∃ pre e post, es = pre ++ e :: post ∧
    (∀ x ∈ pre, x.evaluate.result state = .ok (!op.decisive)) ∧ e.evaluate.result state = result

section Chains

variable {state : BuildState} {op : Connective} {e : Expr} {es : List Expr}
  {result : Except Failure Bool}

theorem firstToSettle_nil : ¬FirstToSettle state op [] result := by
  rintro ⟨pre, e, post, hes, _⟩
  cases pre <;> cases hes

theorem firstToSettle_cons :
    FirstToSettle state op (e :: es) result ↔ e.evaluate.result state = result ∨
      e.evaluate.result state = .ok (!op.decisive) ∧ FirstToSettle state op es result := by
  constructor
  · rintro ⟨pre, x, post, hes, hpre, hx⟩
    cases pre with
    | nil =>
        cases hes
        exact .inl hx
    | cons y pre =>
        obtain ⟨rfl, rfl⟩ := List.cons.inj hes
        obtain ⟨he, hpre⟩ := List.forall_mem_cons.mp hpre
        exact .inr ⟨he, pre, x, post, rfl, hpre, hx⟩
  · rintro (he | ⟨he, pre, x, post, rfl, hpre, hx⟩)
    · exact ⟨[], e, es, rfl, List.forall_mem_nil _, he⟩
    · exact ⟨e :: pre, x, post, rfl, List.forall_mem_cons.mpr ⟨he, hpre⟩, hx⟩

/-- An operand that leaves the chain open leaves it to the others. -/
theorem result_othersTruth_of_open (he : e.evaluate.result state = .ok (!op.decisive)) :
    (othersTruth op (e :: es)).result state = (othersTruth op es).result state := by
  rw [othersTruth, Asking.result_bind, he]
  show (if (!op.decisive) = op.decisive then Asking.ok _ else othersTruth op es).result state = _
  rw [if_neg (by simp)]

theorem result_othersTruth_of_ne (he : e.evaluate.result state ≠ .ok (!op.decisive)) :
    (othersTruth op (e :: es)).result state = e.evaluate.result state := by
  rw [othersTruth, Asking.result_bind]
  cases hresult : e.evaluate.result state with
  | error f => rfl
  | ok b =>
      have hdecisive : b = op.decisive := by
        refine Decidable.byContradiction fun hb => he ?_
        rw [hresult, Bool.eq_not.mpr hb]
      show (if b = op.decisive then Asking.ok b else othersTruth op es).result state = _
      rw [if_pos hdecisive]
      rfl

/-- All operands leave the chain open, or the first one that does not tells its result. -/
theorem result_othersTruth_iff (hresult : result ≠ .ok (!op.decisive)) :
    (othersTruth op es).result state = result ↔ FirstToSettle state op es result := by
  induction es with
  | nil =>
      constructor
      · intro h
        exact absurd h.symm hresult
      · intro h
        exact absurd h firstToSettle_nil
  | cons e es ih =>
      rw [firstToSettle_cons]
      by_cases he : e.evaluate.result state = .ok (!op.decisive)
      · rw [result_othersTruth_of_open he, ih, he]
        constructor
        · exact fun h => .inr ⟨rfl, h⟩
        · rintro (h | ⟨_, h⟩)
          · exact absurd h.symm hresult
          · exact h
      · rw [result_othersTruth_of_ne he]
        constructor
        · exact .inl
        · rintro (h | ⟨h, _⟩)
          · exact h
          · exact absurd h he

theorem result_othersTruth_open :
    (othersTruth op es).result state = .ok (!op.decisive) ↔
      ∀ e ∈ es, e.evaluate.result state = .ok (!op.decisive) := by
  induction es with
  | nil =>
      constructor
      · intro _ e he
        cases he
      · exact fun _ => rfl
  | cons e es ih =>
      rw [List.forall_mem_cons]
      by_cases he : e.evaluate.result state = .ok (!op.decisive)
      · rw [result_othersTruth_of_open he, ih]
        exact ⟨fun h => ⟨he, h⟩, fun h => h.2⟩
      · rw [result_othersTruth_of_ne he]
        exact ⟨fun h => absurd h he, fun h => absurd h.1 he⟩

end Chains

/-- **Evaluation asks once for each thing, from left to right, and no more than it needs.** The
questions are those of the steps of the expression in order, without the steps that a settled chain
passes over and those behind the first that fails. A chain has the decisive value if an operand has
it and those before leave it open, it fails like the first operand that fails if that comes first,
and otherwise it has the other value. -/
theorem evaluate_asks_in_order (state : BuildState) :
    (∀ e : Expr, (e.evaluate.run state).1 = Step.asked state e.steps) ∧
    ∀ op first others,
      ((chain op first others).evaluate.result state = .ok op.decisive ↔
        FirstToSettle state op (first :: others) (.ok op.decisive)) ∧
      (∀ f, (chain op first others).evaluate.result state = .error f ↔
        FirstToSettle state op (first :: others) (.error f)) ∧
      ((chain op first others).evaluate.result state = .ok (!op.decisive) ↔
        ∀ e ∈ first :: others, e.evaluate.result state = .ok (!op.decisive)) := by
  refine ⟨fun e => (takes_evaluate state e).asked, fun op first others => ?_⟩
  have hchain : (chain op first others).evaluate = othersTruth op (first :: others) :=
    evaluate_chain op first others
  rw [hchain]
  refine ⟨result_othersTruth_iff ?_, fun f => result_othersTruth_iff ?_, result_othersTruth_open⟩
  · simp
  · simp

end BuildCondition.Expr
