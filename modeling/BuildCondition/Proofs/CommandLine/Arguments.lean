import BuildCondition.CommandLine.Arguments
import BuildCondition.Proofs.Except
import Mathlib.Tactic.SplitIfs

/-!
# Arguments that ask for printing

The options that ask for the tokens and for the expression take no value, may stand before all
others, and nothing but their own repetition looks at them. So every step of reading arguments does
the same whether or not printing has been asked for before (§1, §2), and the other arguments are read
as they are on their own (§3).
-/

namespace BuildCondition.CommandLine

/-! ## §1  What does not look at printing -/

namespace Arguments

/-- The same, with the printing that is asked for. -/
def printing (a : Arguments) (tokens tree : Bool) : Arguments :=
  { a with tokens := tokens, tree := tree }

/-- Nothing is to be printed. -/
def Quiet (a : Arguments) : Prop :=
  a.tokens = false ∧ a.tree = false

theorem withValue_printing (a : Arguments) (v : Valued) (value : String) (tokens tree : Bool) :
    (a.printing tokens tree).withValue v value =
      (a.withValue v value).map (·.printing tokens tree) := by
  cases v with
  | property | item =>
      simp only [withValue]
      cases assignment? value <;> rfl
  | stateFile =>
      change (if a.stateFile.isSome then _ else if value = "" then _ else _) = _
      simp only [withValue]
      split_ifs <;> rfl
  | settingsFile =>
      change (if a.settingsFile.isSome then _ else if value = "" then _ else _) = _
      simp only [withValue]
      split_ifs <;> rfl
  | maxDepth =>
      change (if a.maxDepth.isSome then _ else _) = _
      simp only [withValue]
      split_ifs
      · rfl
      · cases count? value <;> rfl

end Arguments

namespace Progress

/-- The same, with the printing that is asked for. -/
def printing (p : Progress) (tokens tree : Bool) : Progress :=
  { p with asked := p.asked.printing tokens tree }

variable (p : Progress) (v : Valued) (tokens tree : Bool)

theorem settle_printing :
    (p.printing tokens tree).settle = p.settle.map (·.printing tokens tree) := by
  obtain ⟨asked, pending, literal⟩ := p
  match pending with
  | none => rfl
  | some (_, none) => rfl
  | some (v, some value) =>
      simp only [settle, printing, Arguments.withValue_printing]
      cases asked.withValue v value <;> rfl

theorem attach_printing (value : String) :
    (p.printing tokens tree).attach v value =
      (p.attach v value).map (·.printing tokens tree) := by
  rw [attach, attach, settle_printing]
  cases p.settle with
  | error e => rfl
  | ok p =>
      simp only [Except.map, Except.bind, printing, Arguments.withValue_printing]
      cases p.asked.withValue v value <;> rfl

theorem await_printing :
    (p.printing tokens tree).await v = (p.await v).map (·.printing tokens tree) := by
  rw [await, await, settle_printing]
  cases p.settle <;> rfl

theorem condition_printing (text : String) :
    (p.printing tokens tree).condition text =
      (p.condition text).map (·.printing tokens tree) := by
  rw [condition, condition, settle_printing]
  change (if p.asked.condition.isSome then _ else _) = _
  split_ifs
  · rfl
  · cases p.settle <;> rfl

theorem plain_printing (argument : String) :
    (p.printing tokens tree).plain argument =
      (p.plain argument).map (·.printing tokens tree) := by
  obtain ⟨asked, pending, literal⟩ := p
  match pending, literal with
  | none, _ => exact condition_printing ..
  | some (_, some _), _ => exact condition_printing ..
  | some (_, none), true => exact condition_printing ..
  | some (_, none), false => rfl

end Progress

/-! ## §2  Steps of a quiet reading -/

/-- Where a step leads to nothing being printed, nothing was to be printed before it, and asking for
it makes no other difference. -/
def Keeps (step : Progress → Except UsageError Progress) : Prop :=
  ∀ p q, step p = .ok q → q.asked.Quiet →
    p.asked.Quiet ∧ ∀ tokens tree, step (p.printing tokens tree) = .ok (q.printing tokens tree)

namespace Keeps

variable {step andThen other : Progress → Except UsageError Progress}

theorem of_printing (h : ∀ p tokens tree,
    step (p.printing tokens tree) = (step p).map (·.printing tokens tree)) : Keeps step := by
  intro p q hq hquiet
  constructor
  · -- the result asks for as much printing as what the step started from
    have hsame := h p p.asked.tokens p.asked.tree
    rw [show p.printing p.asked.tokens p.asked.tree = p from rfl, hq] at hsame
    rw [Except.ok.inj hsame] at hquiet
    exact hquiet
  · intro tokens tree
    rw [h, hq]
    rfl

theorem of_error (e : UsageError) : Keeps fun _ => .error e :=
  fun _ _ hq => by cases hq

theorem bind (hstep : Keeps step) (hthen : Keeps andThen) :
    Keeps fun p => (step p).bind andThen := by
  intro p q hq hquiet
  obtain ⟨r, hr, hq⟩ := bind_eq_ok.mp hq
  obtain ⟨hquiet', hthen⟩ := hthen r q hq hquiet
  obtain ⟨hp, hstep⟩ := hstep p r hr hquiet'
  refine ⟨hp, fun tokens tree => ?_⟩
  simp only [hstep tokens tree]
  exact hthen tokens tree

theorem ite_literal (hstep : Keeps step) (hother : Keeps other) :
    Keeps fun p => if p.literal then step p else other p := by
  rintro ⟨asked, pending, literal⟩
  cases literal with
  | true => exact hstep ⟨asked, pending, true⟩
  | false => exact hother ⟨asked, pending, false⟩

theorem settle : Keeps Progress.settle :=
  of_printing Progress.settle_printing

theorem attach (v : Valued) (value : String) : Keeps fun p => p.attach v value :=
  of_printing fun p tokens tree => p.attach_printing v tokens tree value

theorem await (v : Valued) : Keeps fun p => p.await v :=
  of_printing fun p tokens tree => p.await_printing v tokens tree

theorem plain (argument : String) : Keeps fun p => p.plain argument :=
  of_printing fun p tokens tree => p.plain_printing tokens tree argument

theorem raise (f : Flag) : Keeps fun p => p.raise f := by
  refine settle.bind ?_
  cases f with
  | propertiesOnly =>
      refine of_printing fun p tokens tree => ?_
      change Except.map _ (if p.asked.propertiesOnly then _ else _) = _
      simp only [Arguments.withFlag]
      split_ifs <;> rfl
  | tokens | tree =>
      -- the step itself asks for printing, so that its result is not quiet
      intro p q hq hquiet
      obtain ⟨asked, hasked, rfl⟩ := map_eq_ok.mp hq
      simp only [Arguments.withFlag] at hasked
      split at hasked
      · cases hasked
      · cases hasked
        simp [Arguments.Quiet] at hquiet
  | help | version => exact of_error _

theorem named (cs : List Char) : Keeps fun p => p.named cs := by
  unfold Progress.named
  dsimp only
  generalize ((Text.cutAt? '=' cs).map fun x => (x.1, some (String.ofList x.2))).getD (cs, none) =
    parts
  obtain ⟨name, value?⟩ := parts
  cases Opt.ofName? (String.ofList name) with
  | none => exact of_error _
  | some o =>
      cases o with
      | valued v =>
          cases value? with
          | none => exact await v
          | some value => exact attach v value
      | flag f =>
          cases value? with
          | none => exact raise f
          | some value => exact of_error _

theorem lettered (cs : List Char) : Keeps fun p => p.lettered cs := by
  induction cs with
  | nil => exact of_printing fun _ _ _ => rfl
  | cons c cs ih =>
      unfold Progress.lettered
      cases Opt.ofLetter? c with
      | none => exact of_error _
      | some o =>
          cases o with
          | flag f => exact (raise f).bind ih
          | valued v =>
              dsimp only
              split
              · exact await v
              · exact attach v _
              · exact attach v _

/-- What one argument does. -/
theorem next (argument : String) : Keeps fun p => p.next argument := by
  unfold Progress.next
  refine ite_literal (plain argument) ?_
  split
  · exact of_printing fun _ _ _ => rfl
  · exact named _
  · exact lettered _
  · exact plain argument

/-- What some arguments do, one after the other. -/
theorem foldlM (arguments : List String) : Keeps fun p => arguments.foldlM Progress.next p := by
  induction arguments with
  | nil => exact of_printing fun _ _ _ => rfl
  | cons argument arguments ih => exact (next argument).bind ih

end Keeps

/-! ## §3  Printing options before all others -/

/-- The options that ask for printing. -/
def printingOptions (tokens tree : Bool) : List String :=
  (if tokens then ["--tokens"] else []) ++ if tree then ["--tree"] else []

theorem foldlM_printingOptions (tokens tree : Bool) :
    (printingOptions tokens tree).foldlM Progress.next Progress.start =
      .ok (Progress.start.printing tokens tree) := by
  cases tokens <;> cases tree <;> rfl

/-- Reading ends with a look at the option that is still pending, and needs a condition. -/
theorem readArguments_eq_ok {arguments : List String} {condition : String} {a : Arguments} :
    readArguments arguments = .ok (condition, a) ↔
      ∃ p q, arguments.foldlM Progress.next Progress.start = .ok p ∧ p.settle = .ok q ∧
        q.asked = a ∧ a.condition = some condition := by
  constructor
  · intro h
    obtain ⟨p, hp, h⟩ := bind_eq_ok.mp h
    obtain ⟨q, hq, h⟩ := bind_eq_ok.mp h
    split at h
    · rename_i c hc
      cases h
      exact ⟨p, q, hp, hq, rfl, hc⟩
    · cases h
  · rintro ⟨p, q, hp, hq, rfl, hc⟩
    refine bind_eq_ok.mpr ⟨p, hp, bind_eq_ok.mpr ⟨q, hq, ?_⟩⟩
    rw [hc]

/-- Arguments that do not ask for printing are read the same behind options that do. -/
theorem readArguments_printingOptions {arguments : List String} {condition : String}
    {a : Arguments} (h : readArguments arguments = .ok (condition, a)) (hquiet : a.Quiet)
    (tokens tree : Bool) :
    readArguments (printingOptions tokens tree ++ arguments) =
      .ok (condition, a.printing tokens tree) := by
  obtain ⟨p, q, hp, hq, rfl, hcondition⟩ := readArguments_eq_ok.mp h
  obtain ⟨hquiet', hsettle⟩ := Keeps.settle p q hq hquiet
  obtain ⟨_, hfold⟩ := Keeps.foldlM arguments Progress.start p hp hquiet'
  refine readArguments_eq_ok.mpr
    ⟨p.printing tokens tree, q.printing tokens tree, ?_, hsettle tokens tree, rfl, hcondition⟩
  rw [List.foldlM_append, foldlM_printingOptions]
  exact hfold tokens tree

end BuildCondition.CommandLine
