import BuildCondition.Proofs.Expr.Steps
import BuildCondition.Proofs.Mode

/-!
# What is to blame

A step fails for one of three reasons: a function fails though its arguments have values, two values
cannot be compared, or a value is no truth value (§1). An evaluation that fails does so with the
failure of the first step that fails (§2), and the expression that is to blame for it is a part of
the whole one (§3).
-/

namespace BuildCondition.Expr

/-! ## §1  Failing steps -/

namespace Step

/-- `s.Raises state x f`: the step `s` ends with the failure `f`, and `x` is to blame. What the step
starts from is there, so that nothing before it has failed. -/
inductive Raises (state : BuildState) : Step → Expr → Failure → Prop
  | call {past n name arguments vs f} :
      (values arguments).result state = .ok vs → state (.call name vs) = .error f →
      Raises state ⟨.compute (call n name arguments), past⟩ (call n name arguments)
        (f.placedAt (n + 1))
  | left {past op left right v w} :
      left.value.result state = .ok v → right.value.result state = .ok w →
      Operand.compare op (asOperand left v) (asOperand right w) =
        .error (asOperand left v).blamed →
      Raises state ⟨.compute (comparison op left right), past⟩ left (asOperand left v).blamed
  | right {past op left right v w} :
      left.value.result state = .ok v → right.value.result state = .ok w →
      Operand.compare op (asOperand left v) (asOperand right w) =
        .error (asOperand right w).blamed →
      Raises state ⟨.compute (comparison op left right), past⟩ right (asOperand right w).blamed
  | judge {past e v} :
      e.value.result state = .ok v → v.asBool? = none →
      Raises state ⟨.judge e, past⟩ e (Failure.foundAt .notBoolean (e.offset + 1) v.asText)

/-- The first of some steps that fails, apart from those that are passed over. -/
def FirstToFail (state : BuildState) (ss : List Step) (s : Step) : Prop :=
  ∃ pre post, kept state ss = pre ++ s :: post ∧ (∀ p ∈ pre, p.fails state = false) ∧
    s.fails state = true

variable {state : BuildState} {s : Step} {ss ss' : List Step} {x : Expr} {f : Failure}

theorem Raises.fails (h : s.Raises state x f) : s.fails state = true := by
  cases h with
  | @call _ n name arguments vs f hvs hcall =>
      show (!((Expr.call n name arguments).value.result state).isOk) = true
      rw [value, Asking.result_bind, hvs]
      show (!(Except.mapError _ (state (.call name vs))).isOk) = true
      rw [hcall]
      rfl
  | @left _ op _ _ _ _ hv hw hcompare | @right _ op _ _ _ _ hv hw hcompare =>
      show (!((comparison op _ _).value.result state).isOk) = true
      rw [result_value_comparison op hv hw, hcompare]
      rfl
  | @judge _ _ v hv hbool =>
      show (!(x.evaluate.result state).isOk) = true
      rw [evaluate, Asking.result_bind, hv]
      show (!((truthOf x.offset v).result state).isOk) = true
      rw [truthOf, hbool]
      rfl

/-- If the failures of functions have no position, the failure is put where the expression is that
is to blame. -/
theorem Raises.position_eq (h : s.Raises state x f)
    (hunplaced : ∀ name vs g, state (.call name vs) = .error g → g.position = 0) :
    f.position = x.offset + 1 := by
  cases h with
  | call hvs hcall =>
      rw [Failure.placedAt, if_pos (hunplaced _ _ _ hcall)]
      rfl
  | left | right | judge => rfl

theorem FirstToFail.append_right (h : FirstToFail state ss s) (ss' : List Step) :
    FirstToFail state (ss ++ ss') s := by
  obtain ⟨pre, post, hkept, hpre, hs⟩ := h
  refine ⟨pre, post ++ kept state ss', ?_, hpre, hs⟩
  rw [kept, List.filter_append]
  show kept state ss ++ _ = _
  rw [hkept, List.append_assoc]
  rfl

theorem FirstToFail.append_left (h : FirstToFail state ss' s) (hss : allSucceed state ss = true) :
    FirstToFail state (ss ++ ss') s := by
  obtain ⟨pre, post, hkept, hpre, hs⟩ := h
  refine ⟨kept state ss ++ pre, post, ?_, fun p hp => ?_, hs⟩
  · rw [kept, List.filter_append]
    show kept state ss ++ kept state ss' = _
    rw [hkept, List.append_assoc]
  · rcases List.mem_append.mp hp with hp | hp
    · exact Bool.not_eq_true' _ |>.mp (List.all_eq_true.mp hss p hp)
    · exact hpre p hp

theorem FirstToFail.mem (h : FirstToFail state ss s) : s ∈ ss := by
  obtain ⟨pre, post, hkept, _⟩ := h
  have hs : s ∈ kept state ss := by
    rw [hkept]
    exact List.mem_append_right pre List.mem_cons_self
  exact (List.mem_filter.mp hs).1

end Step

/-! ## §2  Failing evaluations -/

/-- An evaluation that fails does so with the failure of the first of some steps that fails. -/
def FailsAtStep {α : Type} (state : BuildState) (a : Asking α) (ss : List Step) : Prop :=
  ∀ f, a.result state = .error f → ∃ s x, Step.FirstToFail state ss s ∧ s.Raises state x f

namespace FailsAtStep

variable {α β : Type} {state : BuildState} {a : Asking α} {ss ss' : List Step}

theorem ok (x : α) (ss : List Step) : FailsAtStep state (.ok x) ss := by
  intro f hf
  cases hf

/-- The rest of a sequence is come to if all steps of its first part succeed. -/
theorem bind {next : α → Asking β} (ht : Takes state a ss) (h : FailsAtStep state a ss)
    (hnext : ∀ x, a.result state = .ok x → FailsAtStep state (next x) ss') :
    FailsAtStep state (a.bind next) (ss ++ ss') := by
  intro f hf
  rw [Asking.result_bind, bind_eq_error] at hf
  rcases hf with hf | ⟨x, hx, hf⟩
  · obtain ⟨s, e, hs, hraises⟩ := h f hf
    exact ⟨s, e, hs.append_right ss', hraises⟩
  · obtain ⟨s, e, hs, hraises⟩ := hnext x hx f hf
    have hall : Step.allSucceed state ss = true := by
      rw [← ht.isOk, hx]
      rfl
    exact ⟨s, e, hs.append_left hall, hraises⟩

theorem map (ht : Takes state a ss) (h : FailsAtStep state a ss) (g : α → β) :
    FailsAtStep state (a.map g) ss := by
  have hmap : FailsAtStep state (a.bind fun x => .ok (g x)) (ss ++ []) :=
    h.bind ht fun x _ => ok (g x) []
  rwa [List.append_nil] at hmap

/-- What never fails. -/
theorem of_lookUps (ht : Takes state a ss) (h : ∀ s ∈ ss, s.fails state = false) :
    FailsAtStep state a ss := by
  intro f hf
  have hall : Step.allSucceed state ss = true := by
    refine List.all_eq_true.mpr fun s hs => ?_
    rw [h s (List.mem_filter.mp hs).1]
    rfl
  rw [← ht.isOk, hf] at hall
  cases hall

theorem single {s : Step} (hopen : s.isSkipped state = false)
    (h : ∀ f, a.result state = .error f → ∃ x, s.Raises state x f) : FailsAtStep state a [s] := by
  intro f hf
  obtain ⟨x, hx⟩ := h f hf
  refine ⟨s, x, ⟨[], [], Step.kept_eq_self fun s' hs' => ?_, List.forall_mem_nil _, hx.fails⟩, hx⟩
  rw [List.mem_singleton.mp hs', hopen]

end FailsAtStep

section Running

variable {state : BuildState} {past : List (Connective × Expr)} {e : Expr} {v w : Value}

theorem failsAtStep_truthOf (h : Open state past) (hv : e.value.result state = .ok v) :
    FailsAtStep state (truthOf e.offset v) [⟨.judge e, past⟩] := by
  refine .single (h.isSkipped _) fun f hf => ⟨e, ?_⟩
  rw [truthOf] at hf
  cases hbool : v.asBool? with
  | some b =>
      rw [hbool] at hf
      cases hf
  | none =>
      rw [hbool] at hf
      cases hf
      exact .judge hv hbool

theorem FailsAtStep.judge (h : Open state past) (he : FailsAtStep state e.value (stepsFrom past e)) :
    FailsAtStep state e.evaluate (stepsFrom past e ++ [⟨.judge e, past⟩]) :=
  he.bind (takes_value e h) fun _ hv => failsAtStep_truthOf h hv

/-- One of the operands is to blame if they cannot be compared. -/
theorem blamed_of_compare {op : Comparison} {left right : Operand} {f : Failure}
    (h : Operand.compare op left right = .error f) : f = left.blamed ∨ f = right.blamed := by
  unfold Operand.compare at h
  split at h
  · cases h
  · have horder := map_eq_error.mp h
    unfold Operand.order at horder
    split at horder
    · cases horder
    · split at horder
      · cases horder
      · cases horder
        split
        · exact .inr rfl
        · exact .inl rfl

theorem failsAtStep_compare (h : Open state past) {op : Comparison} {left right : Expr}
    (hv : left.value.result state = .ok v) (hw : right.value.result state = .ok w) :
    FailsAtStep state
      (.done ((Operand.compare op (asOperand left v) (asOperand right w)).map Value.bool))
      [⟨.compute (comparison op left right), past⟩] := by
  refine .single (h.isSkipped _) fun f hf => ?_
  have hcompare := map_eq_error.mp hf
  rcases blamed_of_compare hcompare with rfl | rfl
  · exact ⟨left, .left hv hw hcompare⟩
  · exact ⟨right, .right hv hw hcompare⟩

theorem failsAtStep_call (h : Open state past) {n : Nat} {name : String} {arguments : List Expr}
    {vs : List Value} (hvs : (values arguments).result state = .ok vs) :
    FailsAtStep state (Asking.call (n + 1) name vs)
      [⟨.compute (call n name arguments), past⟩] := by
  refine .single (h.isSkipped _) fun f hf => ⟨call n name arguments, ?_⟩
  have hcall : (state (.call name vs)).mapError (·.placedAt (n + 1)) = .error f := hf
  cases hanswer : state (.call name vs) with
  | ok v =>
      rw [hanswer] at hcall
      cases hcall
  | error g =>
      rw [hanswer] at hcall
      cases hcall
      exact .call hvs hanswer

/-- An operand of a chain fails on its own, or settles the chain, or leaves it to the others. -/
theorem failsAtStep_operand (h : Open state past) {op : Connective} {es : List Expr}
    (he : FailsAtStep state e.value (stepsFrom past e))
    (hothers : Open state ((op, e) :: past) →
      FailsAtStep state (chainValue op es) (stepsOfOthers op ((op, e) :: past) es)) :
    FailsAtStep state
      (e.evaluate.bind fun b => if b = op.decisive then .ok (Value.bool b) else chainValue op es)
      (stepsFrom past e ++ [⟨.judge e, past⟩] ++ stepsOfOthers op ((op, e) :: past) es) := by
  refine (he.judge h).bind ((takes_value e h).judge h) fun b hb => ?_
  split
  · exact .ok _ _
  · rename_i hopen
    exact hothers (h.cons hb hopen)

mutual

/-- If the value of an expression fails, the first of its steps that fails tells why. -/
theorem failsAtStep_value : ∀ (e : Expr) {past : List (Connective × Expr)}, Open state past →
    FailsAtStep state e.value (stepsFrom past e)
  | literal _ v _, _, _ => .ok v _
  | template _ s, _, h =>
      .of_lookUps ((takes_fill h s).map _) fun step hstep => by
        obtain ⟨r, _, rfl⟩ := List.mem_map.mp hstep
        rfl
  | reference _ r, _, h =>
      .of_lookUps (((h.takes_lookUp r.lookup).map _).map _) fun step hstep => by
        rw [List.mem_singleton.mp hstep]
        rfl
  | call _ _ arguments, _, h =>
      (failsAtStep_values arguments h).bind (takes_values arguments h) fun _ hvs =>
        failsAtStep_call h hvs
  | not _ e, _, h => ((failsAtStep_value e h).judge h).map ((takes_value e h).judge h) _
  | comparison _ left right, _, h =>
      (failsAtStep_value left h).bind (takes_value left h) fun _ hv =>
        (failsAtStep_value right h).bind (takes_value right h) fun _ hw =>
          failsAtStep_compare h hv hw
  | chain op first others, _, h =>
      failsAtStep_operand h (failsAtStep_value first h) (failsAtStep_chainValue op others)

theorem failsAtStep_values : ∀ (es : List Expr) {past : List (Connective × Expr)},
    Open state past → FailsAtStep state (values es) (stepsOfAll past es)
  | [], _, _ => .ok [] _
  | e :: es, _, h =>
      (failsAtStep_value e h).bind (takes_value e h) fun _ _ =>
        (failsAtStep_values es h).map (takes_values es h) _

theorem failsAtStep_chainValue (op : Connective) : ∀ (es : List Expr)
    {past : List (Connective × Expr)}, Open state past →
      FailsAtStep state (chainValue op es) (stepsOfOthers op past es)
  | [], _, _ => .ok _ _
  | e :: es, _, h =>
      failsAtStep_operand h (failsAtStep_value e h) (failsAtStep_chainValue op es)

end

/-- **A failing evaluation fails with the failure of the first step that fails.** -/
theorem failsAtStep_evaluate (state : BuildState) (e : Expr) :
    FailsAtStep state e.evaluate e.steps := by
  have hopen : Open state [] := fun p hp => by cases hp
  exact (failsAtStep_value e hopen).judge hopen

/-! ## §3  Parts -/

theorem self_mem_parts (e : Expr) : e ∈ e.parts := by
  cases e <;> exact List.mem_cons_self

theorem mem_parts_of_judge {x : Expr} {f : Failure} {s : Step} (h : s.Raises state x f)
    (hs : s ∈ [⟨.judge e, past⟩]) : x ∈ e.parts := by
  rw [List.mem_singleton.mp hs] at h
  cases h
  exact self_mem_parts e

mutual

/-- What is to blame for a step of an expression is a part of it. -/
theorem mem_parts_of_mem_stepsFrom {s : Step} {x : Expr} {f : Failure} (h : s.Raises state x f) :
    ∀ (e : Expr) {past : List (Connective × Expr)}, s ∈ stepsFrom past e → x ∈ e.parts
  | literal _ _ _, _, hs => by cases hs
  | template _ _, _, hs => by
      obtain ⟨r, _, rfl⟩ := List.mem_map.mp hs
      cases h
  | reference _ _, _, hs => by
      rw [List.mem_singleton.mp hs] at h
      cases h
  | call n name arguments, _, hs => by
      rcases List.mem_append.mp hs with hs | hs
      · exact List.mem_cons_of_mem _ (mem_parts_of_mem_stepsOfAll h arguments hs)
      · rw [List.mem_singleton.mp hs] at h
        cases h
        exact self_mem_parts _
  | not n e, _, hs => by
      refine List.mem_cons_of_mem _ ?_
      rcases List.mem_append.mp hs with hs | hs
      · exact mem_parts_of_mem_stepsFrom h e hs
      · exact mem_parts_of_judge h hs
  | comparison op left right, _, hs => by
      refine List.mem_cons_of_mem _ (List.mem_append.mpr ?_)
      rcases List.mem_append.mp hs with hs | hs
      · exact .inl (mem_parts_of_mem_stepsFrom h left hs)
      · rcases List.mem_append.mp hs with hs | hs
        · exact .inr (mem_parts_of_mem_stepsFrom h right hs)
        · rw [List.mem_singleton.mp hs] at h
          cases h with
          | left => exact .inl (self_mem_parts _)
          | right => exact .inr (self_mem_parts _)
  | chain op first others, _, hs => by
      refine List.mem_cons_of_mem _ (List.mem_append.mpr ?_)
      rcases List.mem_append.mp hs with hs | hs
      · rcases List.mem_append.mp hs with hs | hs
        · exact .inl (mem_parts_of_mem_stepsFrom h first hs)
        · exact .inl (mem_parts_of_judge h hs)
      · exact .inr (mem_parts_of_mem_stepsOfOthers h others hs)

theorem mem_parts_of_mem_stepsOfAll {s : Step} {x : Expr} {f : Failure}
    (h : s.Raises state x f) : ∀ (es : List Expr) {past : List (Connective × Expr)},
      s ∈ stepsOfAll past es → x ∈ partsOfAll es
  | [], _, hs => by cases hs
  | e :: es, _, hs => by
      refine List.mem_append.mpr ?_
      rcases List.mem_append.mp hs with hs | hs
      · exact .inl (mem_parts_of_mem_stepsFrom h e hs)
      · exact .inr (mem_parts_of_mem_stepsOfAll h es hs)

theorem mem_parts_of_mem_stepsOfOthers {s : Step} {x : Expr} {f : Failure}
    (h : s.Raises state x f) : ∀ (es : List Expr) {op : Connective}
      {past : List (Connective × Expr)}, s ∈ stepsOfOthers op past es → x ∈ partsOfAll es
  | [], _, _, hs => by cases hs
  | e :: es, _, _, hs => by
      refine List.mem_append.mpr ?_
      rcases List.mem_append.mp hs with hs | hs
      · rcases List.mem_append.mp hs with hs | hs
        · exact .inl (mem_parts_of_mem_stepsFrom h e hs)
        · exact .inl (mem_parts_of_judge h hs)
      · exact .inr (mem_parts_of_mem_stepsOfOthers h es hs)

end

theorem mem_parts_of_mem_steps {s : Step} {x : Expr} {f : Failure} (h : s.Raises state x f)
    (hs : s ∈ e.steps) : x ∈ e.parts := by
  rcases List.mem_append.mp hs with hs | hs
  · exact mem_parts_of_mem_stepsFrom h e hs
  · exact mem_parts_of_judge h hs

end Running

end BuildCondition.Expr
