import BuildCondition.Bag
import BuildCondition.Condition
import BuildCondition.Proofs.Expr.Blame
import BuildCondition.Proofs.Function
import BuildCondition.Proofs.Lexeme.Faults

/-!
# Failures point into the condition

Positions count the characters of a condition from one, and one more stands for its end. A condition
that is not cut or put together fails at one of these (§2). The parts of an expression start where
tokens do, and so where there is something to be seen (§1), which is why a failure of the evaluation
never points to a blank or to the end (§3).
-/

namespace BuildCondition

open BuildCondition.Text

/-! ## §1  Where parts start -/

/-- Wherever `e` or a part of it starts, one of the tokens does. -/
def Expr.StartsIn (ts : List Token) (e : Expr) : Prop :=
  ∀ x ∈ e.parts, ∃ t ∈ ts, t.offset = x.offset

namespace Expr.StartsIn

variable {ts us : List Token} {e left right first : Expr} {others : List Expr}

theorem before (h : e.StartsIn ts) (us : List Token) : e.StartsIn (ts ++ us) := by
  intro x hx
  obtain ⟨t, ht, hoffset⟩ := h x hx
  exact ⟨t, List.mem_append_left us ht, hoffset⟩

theorem behind (h : e.StartsIn us) (ts : List Token) : e.StartsIn (ts ++ us) := by
  intro x hx
  obtain ⟨t, ht, hoffset⟩ := h x hx
  exact ⟨t, List.mem_append_right ts ht, hoffset⟩

theorem of_operand? {t : Token} (h : t.operand? = some e) : e.StartsIn [t] := by
  have hsingle : e.parts = [e] ∧ e.offset = t.offset := by
    rcases Token.operand?_cases h with ⟨v, s, rfl, _⟩ | ⟨s, rfl, _⟩ | ⟨r, rfl, _⟩ <;>
      exact ⟨rfl, rfl⟩
  intro x hx
  rw [hsingle.1] at hx
  rw [List.mem_singleton.mp hx]
  exact ⟨t, List.mem_cons_self, hsingle.2.symm⟩

theorem not {n : Nat} (h : e.StartsIn ts) (hn : ∃ t ∈ ts, t.offset = n) :
    (Expr.not n e).StartsIn ts := by
  intro x hx
  rcases List.mem_cons.mp hx with rfl | hx
  · exact hn
  · exact h x hx

theorem comparison {op : Comparison} (h : left.StartsIn ts) (h' : right.StartsIn ts) :
    (Expr.comparison op left right).StartsIn ts := by
  intro x hx
  rcases List.mem_cons.mp hx with rfl | hx
  · exact h left (self_mem_parts left)
  · rcases List.mem_append.mp hx with hx | hx
    · exact h x hx
    · exact h' x hx

theorem partsOfAll {es : List Expr} (h : ∀ e ∈ es, e.StartsIn ts) :
    ∀ x ∈ Expr.partsOfAll es, ∃ t ∈ ts, t.offset = x.offset := by
  intro x hx
  rw [partsOfAll_eq_flatMap] at hx
  obtain ⟨e, he, hx⟩ := List.mem_flatMap.mp hx
  exact h e he x hx

theorem call {n : Nat} {name : String} {es : List Expr} (h : ∀ e ∈ es, e.StartsIn ts)
    (hn : ∃ t ∈ ts, t.offset = n) : (Expr.call n name es).StartsIn ts := by
  intro x hx
  rcases List.mem_cons.mp hx with rfl | hx
  · exact hn
  · exact partsOfAll h x hx

theorem joined {op : Connective} (h : ∀ e ∈ first :: others, e.StartsIn ts) :
    (Expr.joined op first others).StartsIn ts := by
  have hfirst := h first List.mem_cons_self
  cases others with
  | nil => exact hfirst
  | cons second others =>
      intro x hx
      rcases List.mem_cons.mp hx with rfl | hx
      · exact hfirst first (self_mem_parts first)
      · rcases List.mem_append.mp hx with hx | hx
        · exact hfirst x hx
        · exact partsOfAll (fun e he => h e (List.mem_cons_of_mem _ he)) x hx

end Expr.StartsIn

mutual

/-- The parts of an expression start where the tokens do that it is made of. -/
theorem Derives.startsIn : ∀ {c d ts e}, Derives c d ts e → e.StartsIn ts
  | _, _, _, _, .expr h => .joined h.startsIn
  | _, _, _, _, .conjunction h => .joined h.startsIn
  | _, _, _, _, @Derives.negation d n ts e h =>
      (h.startsIn.behind [⟨.not, n⟩]).not ⟨_, List.mem_cons_self, rfl⟩
  | _, _, _, _, .operand h => h.startsIn
  | _, _, _, _, @Derives.equality op d d' n ls rs l r _ h h' =>
      .comparison (h.startsIn.before _) ((h'.startsIn.behind [⟨.comparison op, n⟩]).behind ls)
  | _, _, _, _, .loneRelation h => h.startsIn
  | _, _, _, _, @Derives.relation op d d' n ls rs l r _ h h' =>
      .comparison (h.startsIn.before _) ((h'.startsIn.behind [⟨.comparison op, n⟩]).behind ls)
  | _, _, _, _, .lonePrimary h => h.startsIn
  | _, _, _, _, @Derives.group d m n ts e h => (h.startsIn.before _).behind [⟨.leftParen, m⟩]
  | _, _, _, _, .emptyCall =>
      .call (List.forall_mem_nil _) ⟨_, List.mem_cons_self, rfl⟩
  | _, _, _, _, @Derives.call name d k m n ts first others h =>
      .call (fun e he => ((h.startsIn e he).before _).behind [⟨.functionName name, k⟩, ⟨.leftParen, m⟩])
        ⟨_, List.mem_cons_self, rfl⟩
  | _, _, _, _, .token h => .of_operand? h

theorem DerivesList.startsIn : ∀ {sep c d ts first others},
    DerivesList sep c d ts first others → ∀ e ∈ first :: others, e.StartsIn ts
  | _, _, _, _, _, _, .last h =>
      List.forall_mem_cons.mpr ⟨h.startsIn, List.forall_mem_nil _⟩
  | _, _, _, _, _, _, @DerivesList.more sep c d d' n ts us e e' es h h' =>
      List.forall_mem_cons.mpr ⟨h.startsIn.before _, fun e he =>
        ((h'.startsIn e he).behind [⟨sep, n⟩]).behind ts⟩

end

section Texts

variable {mode : Mode} {position : Nat} {cs : List Char}

/-- The character that a token starts with is no blank. -/
theorem getElem?_of_mem_lexAt {t : Token} (h : t ∈ (lexAt mode position cs).tokens) :
    ∃ c, cs[t.offset - position]? = some c ∧ isBlank c = false := by
  induction cs using pieceInduction mode generalizing position with
  | nil => cases h
  | blank c cs hblank ih =>
      rw [lexAt_blank hblank] at h
      have hoffset := (offset_of_mem_lexAt h).1
      obtain ⟨d, hd, hblank⟩ := ih h
      refine ⟨d, ?_, hblank⟩
      rw [show t.offset - position = t.offset - (position + 1) + 1 by omega,
        List.getElem?_cons_succ, hd]
  | lexeme src l rest hsrc hrest ih =>
      rw [lexAt_lexeme hsrc hrest] at h
      rcases List.mem_cons.mp h with rfl | h
      · obtain ⟨_, d, after, rfl, hblank, _⟩ := hsrc
        refine ⟨d, ?_, hblank⟩
        dsimp only
        rw [Nat.sub_self]
        rfl
      · have hoffset := (offset_of_mem_lexAt h).1
        obtain ⟨d, hd, hblank⟩ := ih h
        refine ⟨d, ?_, hblank⟩
        rw [List.getElem?_append_right (by omega), ← hd]
        congr 1
        omega
  | fault c cs fault hblank hread =>
      rw [lexAt_fault hblank hread] at h
      cases h

/-! ## §2  Conditions that are not put together -/

/-- What ends the tokens of a text is at one of its characters, or at its end. -/
theorem position_of_lexAt {f : Failure} (h : (lexAt mode position cs).ending = .error f) :
    position < f.position ∧ f.position ≤ position + cs.length + 1 := by
  induction cs using pieceInduction mode generalizing position with
  | nil => cases h
  | blank c cs hblank ih =>
      rw [lexAt_blank hblank] at h
      have := ih h
      rw [List.length_cons]
      omega
  | lexeme src l rest hsrc hrest ih =>
      rw [lexAt_lexeme hsrc hrest] at h
      have := ih h
      rw [List.length_append]
      omega
  | fault c cs fault hblank hread =>
      rw [lexAt_fault hblank hread] at h
      cases h
      have hahead := Lexeme.ahead_le_of_readLexeme hread
      have hposition : (fault.failure position).position = position + fault.ahead + 1 := by
        unfold Fault.failure
        split <;> rfl
      rw [hposition]
      omega

/-- What ends the tokens of a text is behind the first character of each of them. -/
theorem offset_lt_of_mem_lexAt {f : Failure} (h : (lexAt mode position cs).ending = .error f)
    {t : Token} (ht : t ∈ (lexAt mode position cs).tokens) : t.offset + 1 < f.position := by
  induction cs using pieceInduction mode generalizing position with
  | nil => cases ht
  | blank c cs hblank ih =>
      rw [lexAt_blank hblank] at h ht
      exact ih h ht
  | lexeme src l rest hsrc hrest ih =>
      rw [lexAt_lexeme hsrc hrest] at h ht
      rcases List.mem_cons.mp ht with rfl | ht
      · obtain ⟨_, d, after, rfl, _, _⟩ := hsrc
        have hposition := (position_of_lexAt h).1
        rw [List.length_cons] at hposition
        dsimp only
        omega
      · exact ih h ht
  | fault c cs fault hblank hread =>
      rw [lexAt_fault hblank hread] at ht
      cases ht

end Texts

namespace Expr

variable {mode : Mode} {limit : Nat} {condition : String} {f : Failure}

/-- A condition that is not put together fails at one of its characters, or at its end. -/
theorem position_of_parse (h : parse mode limit condition = .error f) :
    1 ≤ f.position ∧ f.position ≤ condition.length + 1 := by
  rcases (reports_of_ofLexed h).ending_or_met with hend | ⟨t, ht, hposition⟩
  · have hposition := position_of_lexAt hend
    rw [String.length_toList] at hposition
    omega
  · have hoffset : t.offset ≤ condition.length := by
      rw [← String.length_toList]
      cases t with
      | token t =>
          have hoffset := (offset_of_mem_lexAt ht).2
          show t.offset ≤ _
          omega
      | endOfInput n =>
          have hlength := ending_lexAt ht
          show n ≤ _
          omega
    omega

/-- No condition fails to be put together for a reason that only the evaluation can have. -/
theorem stage_of_parse (h : parse mode limit condition = .error f) : f.stage ≠ .evaluation := by
  cases reports_of_ofLexed h with
  | ending hend =>
      intro hstage
      refine cause_ne_of_not_lexical hend (c := f.cause) ?_ ?_ rfl
      · rw [show f.cause.stage = .evaluation from hstage]
        decide
      · intro hrestricts
        rcases hrestricts with hcause | hcause <;>
          rw [Failure.stage, hcause] at hstage <;> cases hstage
  | unexpected => exact fun h => by cases h
  | tooDeep => exact fun h => by cases h

/-- Every part of the expression that a condition is starts at a character that is no blank. -/
theorem getElem?_of_mem_parts {e x : Expr} (h : parse mode limit condition = .ok e)
    (hx : x ∈ e.parts) :
    x.offset < condition.length ∧
      ∃ c, condition.toList[x.offset]? = some c ∧ isBlank c = false := by
  obtain ⟨ts, hlex, d, _, he⟩ := parse_eq_ok_iff.mp h
  obtain ⟨t, ht, hoffset⟩ := he.startsIn x hx
  have hmem : t ∈ (lexAt mode 0 condition.toList).tokens := by
    rw [show lexAt mode 0 condition.toList = _ from hlex]
    exact ht
  rw [← hoffset]
  constructor
  · have := (offset_of_mem_lexAt hmem).2
    rw [String.length_toList] at this
    omega
  · exact getElem?_of_mem_lexAt hmem

end Expr

/-! ## §3  Conditions -/

namespace Condition

open BuildCondition.Expr

/-- A condition fails like the expression that it is, or because it is none. The source is added. -/
theorem result_evaluate_eq_error {mode : Mode} {limit : Nat} {place : Location}
    {condition : String} {state : BuildState} {d : Failure}
    (h : (evaluate mode limit place condition).result state = .error d) :
    (∃ f, Expr.parse mode limit condition = .error f ∧ d = f.withSource condition place) ∨
      ∃ e f, Expr.parse mode limit condition = .ok e ∧ e.evaluate.result state = .error f ∧
        d = f.withSource condition place := by
  unfold evaluate Condition.parse at h
  split at h
  · cases h
  · cases hparse : Expr.parse mode limit condition with
    | error f =>
        rw [hparse] at h
        cases h
        exact .inl ⟨f, rfl, rfl⟩
    | ok e =>
        rw [hparse] at h
        have hresult : (e.evaluate.mapFailure fun f => f.withSource condition place).result state =
            .error d := h
        rw [Asking.result, Asking.run_mapFailure] at hresult
        cases hvalue : (e.evaluate.run state).2 with
        | ok b =>
            rw [hvalue] at hresult
            cases hresult
        | error f =>
            rw [hvalue] at hresult
            cases hresult
            exact .inr ⟨e, f, rfl, hvalue, rfl⟩

/-- **Every failure points into the condition.** It tells the condition, the place where that was
written, and a position in it or at its end. A failure of the evaluation is the one of the first
step that fails, and is put where the expression starts that is to blame, at a character that is no
blank; a function that fails is blamed at the call, whose arguments have not failed. -/
theorem failure_points_into_condition {mode : Mode} {limit : Nat} {place : Location}
    {condition : String} {state : BuildState} {d : Failure}
    (hunplaced : ∀ name vs f, state (.call name vs) = .error f → f.position = 0)
    (h : (evaluate mode limit place condition).result state = .error d) :
    d.condition = condition ∧ d.place = place ∧
      1 ≤ d.position ∧ d.position ≤ condition.length + 1 ∧
      (d.stage = .evaluation → ∃ e, Expr.parse mode limit condition = .ok e) ∧
      ∀ e, Expr.parse mode limit condition = .ok e →
        ∃ s x f, Step.FirstToFail state e.steps s ∧ s.Raises state x f ∧
          d = f.withSource condition place ∧ x ∈ e.parts ∧ d.position = x.offset + 1 ∧
          x.offset < condition.length ∧
          ∃ c, condition.toList[x.offset]? = some c ∧ isBlank c = false := by
  rcases result_evaluate_eq_error h with ⟨f, hparse, rfl⟩ | ⟨e, f, hparse, hvalue, rfl⟩
  · have hposition := position_of_parse hparse
    refine ⟨rfl, rfl, hposition.1, hposition.2, fun hstage => ?_, fun e he => ?_⟩
    · have hstage : f.stage = .evaluation := hstage
      exact absurd hstage (stage_of_parse hparse)
    · rw [hparse] at he
      cases he
  · obtain ⟨s, x, hfirst, hraises⟩ := failsAtStep_evaluate state e f hvalue
    have hx : x ∈ e.parts := mem_parts_of_mem_steps hraises hfirst.mem
    have hposition : f.position = x.offset + 1 := hraises.position_eq hunplaced
    obtain ⟨hlt, hchar⟩ := getElem?_of_mem_parts hparse hx
    refine ⟨rfl, rfl, ?_, ?_, fun _ => ⟨e, hparse⟩, fun e' he' => ?_⟩
    · show 1 ≤ f.position
      omega
    · show f.position ≤ _
      omega
    · rw [hparse] at he'
      cases he'
      exact ⟨s, x, f, hfirst, hraises, rfl, hx, hposition, hlt, hchar⟩

/-- A function that is called for an argument of another one is to blame itself. -/
theorem failure_points_at_inner_call :
    ∃ d e x, (evaluate .everything 50 .unknown
          "!HasTrailingSlash(VersionEquals('x', 1.0))").result Bag.empty.state = .error d ∧
      d.position = 19 ∧ d.stage = .evaluation ∧
      Expr.parse .everything 50 "!HasTrailingSlash(VersionEquals('x', 1.0))" = .ok e ∧
      x ∈ e.parts ∧ x.offset = 18 := by
  have hunplaced : ∀ name vs f, Bag.empty.state (.call name vs) = .error f → f.position = 0 :=
    fun _ _ _ => FunctionTable.unplaced_builtin.call
  have hfails : (evaluate .everything 50 .unknown
      "!HasTrailingSlash(VersionEquals('x', 1.0))").result Bag.empty.state =
        .error ⟨.invalidArgument, .about "\"VersionEquals\" expects a version, got \"x\"", 19,
          "!HasTrailingSlash(VersionEquals('x', 1.0))", .unknown⟩ := by rfl
  obtain ⟨_, _, _, _, hparse, hparts⟩ := failure_points_into_condition hunplaced hfails
  obtain ⟨e, he⟩ := hparse rfl
  obtain ⟨s, x, f, _, _, _, hx, hposition, _⟩ := hparts e he
  exact ⟨_, e, x, hfails, rfl, rfl, he, hx, (Nat.succ.inj hposition).symm⟩

end Condition

end BuildCondition
