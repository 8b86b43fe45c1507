import BuildCondition.CommandLine.Run
import BuildCondition.Proofs.CommandLine.Arguments
import BuildCondition.Proofs.Positions

/-!
# Printing before evaluating

A run may print the tokens of the condition and its expression before it evaluates the condition. To
print the expression puts the condition together as evaluating it does, and so fails as that would.
To print the tokens cuts the whole condition first: what ends the tokens is reported even where the
condition goes wrong before that.
-/

namespace BuildCondition

open BuildCondition.Expr

/-- A condition that cannot be cut cannot be put together. If that fails for another reason, it does
so before the place where cutting fails. -/
theorem parse_of_tokenize_error {mode : Mode} {limit : Nat} {condition : String} {g : Failure}
    (h : tokenize mode condition = .error g) :
    ∃ f, Expr.parse mode limit condition = .error f ∧ (f = g ∨ f.position < g.position) := by
  have hending : (lex mode condition.toList).ending = .error g := map_eq_error.mp h
  cases hparse : Expr.parse mode limit condition with
  | ok e =>
      obtain ⟨ts, hlex, _⟩ := parse_eq_ok_iff.mp hparse
      rw [hlex] at hending
      cases hending
  | error f =>
      refine ⟨f, rfl, ?_⟩
      rcases (reports_of_ofLexed hparse).ending_or_met with hend | ⟨t, ht, hposition⟩
      · exact .inl (Except.error.inj (hend.symm.trans hending))
      · rw [hposition]
        cases t with
        | token t => exact .inr (offset_lt_of_mem_lexAt hending ht)
        | endOfInput n =>
            -- the end of the input is not met where the tokens end in a failure
            cases (show (lex mode condition.toList).ending = .ok n from ht).symm.trans hending

namespace CommandLine

variable {files : Files Id} {engine : Engine} {bag : Bag} {condition : String} {a : Arguments}

/-- A condition that cannot be put together fails in the same way when it is evaluated. -/
theorem evaluate_of_parse_error {f : Failure} (hne : condition ≠ "")
    (h : engine.parse Location.unknown condition = .error f) :
    engine.evaluate Location.unknown condition = .fail f := by
  rw [Engine.evaluate, Condition.evaluate, if_neg hne]
  rw [Engine.parse] at h
  rw [h]

/-- What the evaluation in a run gives. -/
def evaluated (files : Files Id) (engine : Engine) (bag : Bag) (condition : String) :
    Except RunError Bool :=
  (Id.run ((engine.evaluate Location.unknown condition).runWith (answerWith files bag))).mapError
    .condition

/-- The answer is that of the evaluation, unless the tokens cannot be listed. -/
theorem answer_runIn :
    (Id.run (runIn files engine bag condition a)).answer =
      match listing engine condition a with
      | .error g => .error (.condition (g.withSource condition Location.unknown))
      | .ok _ => evaluated files engine bag condition := by
  rw [runIn]
  cases listing engine condition a with
  | error g => rfl
  | ok listed =>
      cases htree : printedTree engine condition a with
      | ok tree => rfl
      | error f =>
          rw [printedTree] at htree
          split at htree
          · rename_i hprints
            have hne : condition ≠ "" := by simpa using (Bool.and_eq_true_iff.mp hprints).2
            simp only [evaluated, evaluate_of_parse_error hne (map_eq_error.mp htree)]
            rfl
          · cases htree

/-- The answer is an error of the settings or of the state, or that of the run in them. -/
theorem answer_run :
    (Id.run (run files condition a)).answer =
      match Id.run (engineFor files a) with
      | .error e => .error (.settings e)
      | .ok engine =>
          match Id.run (bagFor files a engine) with
          | .error e => .error e
          | .ok bag => (Id.run (runIn files engine bag condition a)).answer := by
  rw [run, Id.run_bind]
  cases Id.run (engineFor files a) with
  | error e => rfl
  | ok engine =>
      dsimp only
      rw [Id.run_bind]
      cases Id.run (bagFor files a engine) <;> rfl

/-- Where the tokens cannot be listed, the evaluation does not get to ask anything. -/
theorem evaluated_of_tokenize_error {g : Failure}
    (h : tokenize engine.settings.mode condition = .error g) :
    ∃ f, evaluated files engine bag condition = .error (.condition f) ∧ f.stage ≠ .evaluation ∧
      (f = g.withSource condition Location.unknown ∨ f.position < g.position) := by
  have hne : condition ≠ "" := by
    rintro rfl
    cases h
  obtain ⟨f, hf, hposition⟩ := @parse_of_tokenize_error _ engine.settings.maxDepth _ _ h
  have hparse : engine.parse Location.unknown condition =
      .error (f.withSource condition Location.unknown) := by
    rw [Engine.parse, Condition.parse, hf, mapError_error]
  have hstage : f.stage ≠ .evaluation := stage_of_parse hf
  refine ⟨f.withSource condition Location.unknown, ?_, hstage, ?_⟩
  · rw [evaluated, evaluate_of_parse_error hne hparse]
    rfl
  · rcases hposition with rfl | hlt
    · exact .inl rfl
    · exact .inr hlt

/-- Asking for printing makes no difference, unless the tokens are asked for and cannot be listed and
something is wrong with the condition before that. -/
theorem answer_printing (hquiet : a.Quiet) (tokens tree : Bool) :
    (Id.run (run files condition (a.printing tokens tree))).answer =
        (Id.run (run files condition a)).answer ∨
      tokens = true ∧ ∃ engine f g, Id.run (engineFor files a) = .ok engine ∧
        (Id.run (run files condition a)).answer = .error (.condition f) ∧ f.stage ≠ .evaluation ∧
        tokenize engine.settings.mode condition = .error g ∧
        (Id.run (run files condition (a.printing tokens tree))).answer =
          .error (.condition (g.withSource condition Location.unknown)) ∧
        f.position < g.position := by
  rw [answer_run, answer_run]
  -- neither the settings nor the state depend on what is printed
  rw [show engineFor files (a.printing tokens tree) = engineFor files a from rfl]
  cases Id.run (engineFor files a) with
  | error e => exact .inl rfl
  | ok engine =>
      dsimp only
      rw [show bagFor files (a.printing tokens tree) engine = bagFor files a engine from rfl]
      cases Id.run (bagFor files a engine) with
      | error e => exact .inl rfl
      | ok bag =>
          have hlisting : listing engine condition a = .ok "" := by
            rw [listing, hquiet.1]
            rfl
          dsimp only
          rw [answer_runIn, answer_runIn, hlisting]
          cases hlisting : listing engine condition (a.printing tokens tree) with
          | ok listed => exact .inl rfl
          | error g =>
              rw [listing] at hlisting
              split at hlisting
              · rename_i htokens
                have hg := map_eq_error.mp hlisting
                obtain ⟨f, hf, hstage, rfl | hlt⟩ := evaluated_of_tokenize_error hg
                · exact .inl hf.symm
                · exact .inr ⟨htokens, engine, f, g, rfl, hf, hstage, hg, rfl, hlt⟩
              · cases hlisting

/-- **Printing does not change the answer.** Options that ask for printing may be put before any
arguments that do not. To print the expression never changes the answer or the failure. To print the
tokens does not change an answer, a failure of the settings or of the state, or one that only the
evaluation can have; otherwise the failure is the same, or that of cutting the condition, which is
further on. -/
theorem answer_of_printingOptions {files : Files Id} {arguments : List String}
    {condition : String} {a : Arguments} (h : readArguments arguments = .ok (condition, a))
    (hquiet : a.Quiet) (tokens tree : Bool) :
    let plain := (Id.run (run files condition a)).answer
    let printing := (Id.run (run files condition (a.printing tokens tree))).answer
    readArguments (printingOptions tokens tree ++ arguments) =
        .ok (condition, a.printing tokens tree) ∧
      (tokens = false → printing = plain) ∧
      ((∀ f, plain = .error (.condition f) → f.stage = .evaluation) → printing = plain) ∧
      ∀ f, plain = .error (.condition f) →
        printing = plain ∨
          ∃ engine g, Id.run (engineFor files a) = .ok engine ∧
            tokenize engine.settings.mode condition = .error g ∧
            printing = .error (.condition (g.withSource condition Location.unknown)) ∧
            f.position < g.position := by
  intro plain printing
  refine ⟨readArguments_printingOptions h hquiet tokens tree, ?_⟩
  rcases @answer_printing files condition a hquiet tokens tree with
    hsame | ⟨htokens, engine, f, g, hengine, hf, hstage, hg, hprinting, hlt⟩
  · exact ⟨fun _ => hsame, fun _ => hsame, fun _ _ => .inl hsame⟩
  · refine ⟨fun hno => ?_, fun hevaluation => absurd (hevaluation f hf) hstage, fun f' hf' => ?_⟩
    · rw [htokens] at hno
      cases hno
    · cases hf.symm.trans hf'
      exact .inr ⟨engine, g, hengine, hg, hprinting, hlt⟩

/-- A second word is not expected, and behind it is a reference that does not begin well. -/
theorem answer_of_printingOptions_further_on :
    ∃ a f g, readArguments ["a b $"] = .ok ("a b $", a) ∧ a.Quiet ∧
      readArguments ["--tokens", "--tree", "a b $"] = .ok ("a b $", a.printing true true) ∧
      (Id.run (run (Folder.access ⟨[]⟩) "a b $" a)).answer = .error (.condition f) ∧
      f.position = 3 ∧
      (Id.run (run (Folder.access ⟨[]⟩) "a b $" (a.printing true true))).answer =
        .error (.condition g) ∧
      3 < g.position := by
  have hread : readArguments ["a b $"] =
      .ok ("a b $", { Arguments.none with condition := some "a b $" }) := by rfl
  obtain ⟨hprinting, _, _, hfails⟩ :=
    @answer_of_printingOptions (Folder.access ⟨[]⟩) _ _ _ hread ⟨rfl, rfl⟩ true true
  have hplain : (Id.run (run (Folder.access ⟨[]⟩) "a b $"
      { Arguments.none with condition := some "a b $" })).answer =
        .error (.condition ((Failure.foundAt .unexpectedToken 3 "b").withSource "a b $" .unknown)) := by
    rfl
  rcases hfails _ hplain with hsame | ⟨_, g, _, _, hg, hlt⟩
  · rw [hplain] at hsame
    cases hsame
  · exact ⟨_, _, _, hread, ⟨rfl, rfl⟩, hprinting, hplain, rfl, hg, hlt⟩

end CommandLine

end BuildCondition
