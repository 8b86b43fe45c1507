import BuildCondition.Function
import BuildCondition.Proofs.Except
import BuildCondition.Proofs.Function
import Mathlib.Data.List.Induction
import Mathlib.Data.String.Basic

/-!
# Runs of registrations

A table of functions is compared with the plain list of what has been registered in it. A function
is registered as a body that takes its values from a list by their places, and may reach past its
end (§1). The functions that are always there, and the one for features, are such bodies (§2).
Registering keeps the names in order (§3), and a step of a run changes what a call finds in the
table as it changes what was registered last (§4). Hence a table is a map from names to the
functions registered last, after any run, and no body is asked for more than it is given (§5).
-/

namespace BuildCondition

/-! ## §1  Bodies -/

/-- A function as it is written. Its body takes values from a list by their places, and has no
result if it reaches past the end, which it does not do in a list of `arity` values. -/
structure ListFunction where
  arity : Nat
  body : List Value → Option (Except Failure Value)
  isSome_body : ∀ args, args.length = arity → (body args).isSome

namespace ListFunction

/-- The function of a body, of which nothing is left but what it does with `arity` values. -/
def toFunction (f : ListFunction) : Function :=
  ⟨f.arity, fun args => (f.body args.toList).get (f.isSome_body _ args.length_toList)⟩

theorem body_eq_some (f : ListFunction) {args : List Value} (h : args.length = f.arity) :
    f.body args = some (f.toFunction.apply ⟨args.toArray, h⟩) :=
  (Option.some_get _).symm

theorem toFunction_eq {f : ListFunction} {apply : Vector Value f.arity → Except Failure Value}
    (h : ∀ args, f.body args.toList = some (apply args)) : f.toFunction = ⟨f.arity, apply⟩ := by
  unfold toFunction
  congr
  funext args
  exact Option.get_of_eq_some _ (h args)

/-- Two bodies that do the same with as many values as they are written for. -/
def SameWithin (f g : ListFunction) : Prop :=
  f.arity = g.arity ∧ ∀ args, args.length = f.arity → f.body args = g.body args

/-- What a body does with another number of values makes no difference. -/
theorem SameWithin.toFunction_eq {f g : ListFunction} (h : f.SameWithin g) :
    f.toFunction = g.toFunction := by
  obtain ⟨arity, body, hbody⟩ := f
  obtain ⟨_, body', hbody'⟩ := g
  obtain ⟨rfl, hsame⟩ := h
  refine ListFunction.toFunction_eq fun args => ?_
  rw [hsame _ args.length_toList]
  exact (Option.some_get (hbody' _ args.length_toList)).symm

/-- There is a body for every function, so that none is left out of the runs. -/
theorem exists_toFunction_eq (g : Function) : ∃ f : ListFunction, f.toFunction = g := by
  refine ⟨⟨g.arity, fun args => if h : args.length = g.arity then some (g.apply ⟨args.toArray, h⟩)
    else none, ?_⟩, ?_⟩
  · intro args h
    rw [dif_pos h]
    rfl
  · refine toFunction_eq fun args => ?_
    exact dif_pos args.length_toList

/-! ## §2  The functions of the library -/

def hasTrailingSlash : ListFunction where
  arity := 1
  body args := do
    let path ← args[0]?
    some (.ok (.bool (Function.endsInSlash path.asText.toList)))
  isSome_body := by
    intro args h
    obtain ⟨path, rfl⟩ := List.length_eq_one_iff.mp h
    rfl

/-- The second argument is taken only if the first is a version. -/
def comparingVersions (name : String) (op : Comparison) : ListFunction where
  arity := 2
  body args := do
    let left ← args[0]?
    match Function.versionArgument name left with
    | .error e => some (.error e)
    | .ok v => do
        let right ← args[1]?
        some ((Function.versionArgument name right).map fun w => .bool (op.accepts (v.compare w)))
  isSome_body := by
    intro args h
    obtain ⟨left, right, rfl⟩ := List.length_eq_two.mp h
    simp only [List.getElem?_cons_zero, List.getElem?_cons_succ, Option.bind_eq_bind,
      Option.bind_some]
    split <;> rfl

def featuresEnabled (wave : Version) : ListFunction where
  arity := 1
  body args := do
    let asked ← args[0]?
    some ((Function.versionArgument Function.featureName asked).map fun v =>
      .bool (Comparison.lessOrEqual.accepts (v.compare wave)))
  isSome_body := by
    intro args h
    obtain ⟨asked, rfl⟩ := List.length_eq_one_iff.mp h
    rfl

theorem getElem?_toList_of_lt {n i : Nat} (args : Vector Value n) (h : i < n) :
    args.toList[i]? = some args[i] := by
  rw [Vector.getElem?_toList, Vector.getElem?_eq_getElem h]

theorem toFunction_hasTrailingSlash :
    hasTrailingSlash.toFunction = Function.hasTrailingSlash := by
  refine toFunction_eq fun (args : Vector Value 1) => ?_
  simp only [hasTrailingSlash, getElem?_toList_of_lt args Nat.zero_lt_one, Option.bind_eq_bind,
    Option.bind_some]

theorem toFunction_comparingVersions (name : String) (op : Comparison) :
    (comparingVersions name op).toFunction = Function.comparingVersions name op := by
  refine toFunction_eq fun (args : Vector Value 2) => ?_
  simp only [comparingVersions, getElem?_toList_of_lt args Nat.zero_lt_two,
    getElem?_toList_of_lt args Nat.one_lt_two, Option.bind_eq_bind, Option.bind_some]
  cases Function.versionArgument name args[0] <;> rfl

theorem toFunction_featuresEnabled (wave : Version) :
    (featuresEnabled wave).toFunction = Function.featuresEnabled wave := by
  refine toFunction_eq fun (args : Vector Value 1) => ?_
  simp only [featuresEnabled, getElem?_toList_of_lt args Nat.zero_lt_one, Option.bind_eq_bind,
    Option.bind_some]

/-- A body that fails for no other reason than its arguments. -/
def BlamesArguments (f : ListFunction) : Prop :=
  ∀ args failure, f.body args = some (.error failure) → failure.cause = .invalidArgument

theorem cause_versionArgument {name : String} {v : Value} {failure : Failure}
    (h : Function.versionArgument name v = .error failure) : failure.cause = .invalidArgument := by
  unfold Function.versionArgument at h
  split at h <;> cases h
  rfl

theorem blamesArguments_hasTrailingSlash : hasTrailingSlash.BlamesArguments := by
  intro args failure h
  obtain ⟨path, _, hpath⟩ := Option.bind_eq_some_iff.mp h
  cases hpath

theorem blamesArguments_comparingVersions (name : String) (op : Comparison) :
    (comparingVersions name op).BlamesArguments := by
  intro args failure h
  obtain ⟨left, _, h⟩ := Option.bind_eq_some_iff.mp h
  split at h
  · rename_i e he
    cases h
    exact cause_versionArgument he
  · obtain ⟨right, _, h⟩ := Option.bind_eq_some_iff.mp h
    exact cause_versionArgument (map_eq_error.mp (Option.some.inj h))

theorem blamesArguments_featuresEnabled (wave : Version) :
    (featuresEnabled wave).BlamesArguments := by
  intro args failure h
  obtain ⟨asked, _, h⟩ := Option.bind_eq_some_iff.mp h
  exact cause_versionArgument (map_eq_error.mp (Option.some.inj h))

end ListFunction

/-! ## §3  Names in order -/

namespace FunctionTable

variable {table : FunctionTable} {name : String}

theorem mem_names_iff : name ∈ table.names ↔ ∃ f, table.find? name = some f := by
  rw [← Option.isSome_iff_exists, find?, List.lookup_isSome_iff, names, List.mem_map]
  constructor
  · rintro ⟨entry, hentry, rfl⟩
    exact ⟨entry, hentry, BEq.rfl⟩
  · rintro ⟨entry, hentry, heq⟩
    exact ⟨entry, hentry, (eq_of_beq heq).symm⟩

theorem mem_names_register {n : String} {f : Function} :
    n ∈ (table.register name f).names ↔ n = name ∨ n ∈ table.names := by
  rw [mem_names_iff, mem_names_iff, find?_register]
  by_cases h : n = name
  · simp [h]
  · simp [h]

/-- The names in a list of entries come in ascending order. -/
def Ascending (entries : List (String × Function)) : Prop :=
  (entries.map Prod.fst).Pairwise (· < ·)

theorem Ascending.insertInto {entries : List (String × Function)} (h : Ascending entries)
    (name : String) (f : Function) : Ascending (insertInto name f entries) := by
  induction entries with
  | nil => exact List.pairwise_singleton _ _
  | cons entry entries ih =>
      obtain ⟨other, g⟩ := entry
      obtain ⟨hother, hentries⟩ := List.pairwise_cons.mp h
      rw [FunctionTable.insertInto]
      split
      · rename_i hlt
        refine List.pairwise_cons.mpr ⟨?_, h⟩
        intro n hn
        rcases List.mem_cons.mp hn with rfl | hn
        · exact hlt
        · exact lt_trans hlt (hother n hn)
      · split
        · rename_i heq
          subst heq
          exact h
        · rename_i hnlt hne
          refine List.pairwise_cons.mpr ⟨?_, ih hentries⟩
          intro n hn
          -- the entries behind hold the new name and nothing else that is new
          have hmem : n ∈ (register ⟨entries⟩ name f).names := hn
          rcases mem_names_register.mp hmem with rfl | hn
          · exact lt_of_le_of_ne (not_lt.mp hnlt) (Ne.symm hne)
          · exact hother n hn

end FunctionTable

/-! ## §4  Steps and runs -/

/-- A step of a run. -/
inductive Registration where
  | function (name : String) (f : ListFunction)
  | featureWave (wave : Version)

namespace Registration

/-- The name under which something is registered. -/
def name : Registration → String
  | function name _ => name
  | featureWave _ => Function.featureName

/-- What is registered. -/
def registered : Registration → ListFunction
  | function _ f => f
  | featureWave wave => ListFunction.featuresEnabled wave

/-- The table after the step. -/
def run (table : FunctionTable) : Registration → FunctionTable
  | function name f => table.register name f.toFunction
  | featureWave wave => table.withFeatureWave wave

theorem run_eq_register (table : FunctionTable) (r : Registration) :
    r.run table = table.register r.name r.registered.toFunction := by
  cases r with
  | function name f => rfl
  | featureWave wave =>
      unfold run FunctionTable.withFeatureWave registered
      rw [ListFunction.toFunction_featuresEnabled]
      rfl

theorem run_congr {r r' : Registration} (hname : r.name = r'.name)
    (hsame : r.registered.SameWithin r'.registered) (table : FunctionTable) :
    r.run table = r'.run table := by
  rw [run_eq_register, run_eq_register, hname, hsame.toFunction_eq]

end Registration

/-- Under the name `f` has been registered, and nothing after it. -/
def Latest (history : List Registration) (name : String) (f : ListFunction) : Prop :=
  ∃ before r after, history = before ++ r :: after ∧ r.name = name ∧ r.registered = f ∧
    ∀ r' ∈ after, r'.name ≠ name

section Latest

variable {history : List Registration} {r : Registration} {name : String} {f : ListFunction}

theorem not_latest_nil : ¬ Latest [] name f := by
  rintro ⟨before, r, after, h, _⟩
  exact absurd h.symm (by simp)

/-- A step is the latest of its own name, and has no bearing on others. -/
theorem latest_concat_iff : Latest (history ++ [r]) name f ↔
    (r.name = name ∧ r.registered = f) ∨ (r.name ≠ name ∧ Latest history name f) := by
  constructor
  · rintro ⟨before, r', after, heq, hname, hf, hafter⟩
    rcases List.eq_nil_or_concat after with rfl | ⟨after, last, rfl⟩
    · have hlast := List.singleton_inj.mp (List.append_inj' heq rfl).2
      subst hlast
      exact .inl ⟨hname, hf⟩
    · rw [List.concat_eq_append, ← List.cons_append, ← List.append_assoc] at heq
      obtain ⟨hhistory, hlast⟩ := List.append_inj' heq rfl
      rw [List.singleton_inj.mp hlast]
      refine .inr ⟨hafter last (by simp), before, r', after, hhistory, hname, hf, ?_⟩
      exact fun r'' hr'' => hafter r'' (by simp [hr''])
  · rintro (⟨hname, hf⟩ | ⟨hne, before, r', after, rfl, hname, hf, hafter⟩)
    · exact ⟨history, r, [], rfl, hname, hf, by simp⟩
    · refine ⟨before, r', after ++ [r], by simp, hname, hf, ?_⟩
      intro r'' hr''
      rcases List.mem_append.mp hr'' with hr'' | hr''
      · exact hafter r'' hr''
      · rwa [List.mem_singleton.mp hr'']

/-- A name has a latest registration exactly if it has one at all. -/
theorem exists_latest_iff : (∃ f, Latest history name f) ↔ ∃ r ∈ history, r.name = name := by
  induction history using List.reverseRecOn with
  | nil => simp [not_latest_nil]
  | append_singleton history last ih =>
      simp only [latest_concat_iff, List.mem_append, List.mem_singleton]
      by_cases hlast : last.name = name
      · constructor
        · exact fun _ => ⟨last, .inr rfl, hlast⟩
        · exact fun _ => ⟨last.registered, .inl ⟨hlast, rfl⟩⟩
      · simp only [hlast, false_and, false_or, ne_eq, not_false_eq_true, true_and, ih]
        constructor
        · rintro ⟨r, hr, hname⟩
          exact ⟨r, .inl hr, hname⟩
        · rintro ⟨r, hr | rfl, hname⟩
          · exact ⟨r, hr, hname⟩
          · exact absurd hname hlast

end Latest

/-- A table holds what has been registered last under each name, and nothing else. -/
structure Records (history : List Registration) (table : FunctionTable) : Prop where
  ascending : FunctionTable.Ascending table.entries
  find?_eq_some_iff : ∀ name g,
    table.find? name = some g ↔ ∃ f, Latest history name f ∧ f.toFunction = g

namespace Records

variable {history : List Registration} {table : FunctionTable}

theorem empty : Records [] FunctionTable.empty := by
  refine ⟨List.Pairwise.nil, ?_⟩
  intro name g
  constructor
  · rintro ⟨⟩
  · rintro ⟨f, hf, _⟩
    exact absurd hf not_latest_nil

theorem step (h : Records history table) (r : Registration) :
    Records (history ++ [r]) (r.run table) := by
  rw [Registration.run_eq_register]
  refine ⟨h.ascending.insertInto _ _, ?_⟩
  intro name g
  simp only [FunctionTable.find?_register, latest_concat_iff]
  by_cases hname : r.name = name
  · simp [hname]
  · rw [if_neg (Ne.symm hname), h.find?_eq_some_iff]
    simp [hname]

theorem steps (h : Records history table) (ops : List Registration) :
    Records (history ++ ops) (ops.foldl Registration.run table) := by
  induction ops generalizing history table with
  | nil => simpa using h
  | cons r ops ih =>
      have hsteps := ih (h.step r)
      rwa [List.append_assoc] at hsteps

end Records

/-- The tables to start from. -/
inductive Origin where
  | empty
  | builtin

namespace Origin

def table : Origin → FunctionTable
  | empty => FunctionTable.empty
  | builtin => FunctionTable.builtin

/-- What has been registered in them. -/
def registrations : Origin → List Registration
  | empty => []
  | builtin =>
      .function "HasTrailingSlash" ListFunction.hasTrailingSlash ::
        FunctionTable.versionFunctions.map fun entry =>
          .function entry.1 (ListFunction.comparingVersions entry.1 entry.2)

theorem records (origin : Origin) : Records origin.registrations origin.table := by
  have hrun : origin.registrations.foldl Registration.run FunctionTable.empty = origin.table := by
    cases origin with
    | empty => rfl
    | builtin =>
        rw [registrations, List.foldl_cons, List.foldl_map]
        simp only [Registration.run, ListFunction.toFunction_hasTrailingSlash,
          ListFunction.toFunction_comparingVersions]
        rfl
  have hsteps := Records.empty.steps origin.registrations
  rwa [hrun] at hsteps

theorem blamesArguments (origin : Origin) :
    ∀ r ∈ origin.registrations, r.registered.BlamesArguments := by
  cases origin with
  | empty => exact fun r hr => absurd hr List.not_mem_nil
  | builtin =>
      intro r hr
      rcases List.mem_cons.mp hr with rfl | hr
      · exact ListFunction.blamesArguments_hasTrailingSlash
      · obtain ⟨entry, _, rfl⟩ := List.mem_map.mp hr
        exact ListFunction.blamesArguments_comparingVersions _ _

end Origin

/-! ## §5  Calls -/

/-- A result is a failure with a cause. -/
def FailsBy (cause : Cause) (result : Except Failure Value) : Prop :=
  ∃ failure, result = .error failure ∧ failure.cause = cause

/-- The function that was registered last takes so many values, and fails with a cause itself. -/
def FailsItself (history : List Registration) (name : String) (args : List Value)
    (cause : Cause) : Prop :=
  ∃ f result, Latest history name f ∧ args.length = f.arity ∧ f.body args = some result ∧
    FailsBy cause result

namespace Records

variable {history : List Registration} {table : FunctionTable} {name : String}
  {args : List Value} {f : ListFunction} {cause : Cause}

theorem mem_names_iff (h : Records history table) :
    name ∈ table.names ↔ ∃ f, Latest history name f := by
  rw [FunctionTable.mem_names_iff]
  simp only [h.find?_eq_some_iff]
  constructor
  · rintro ⟨_, f, hf, _⟩
    exact ⟨f, hf⟩
  · rintro ⟨f, hf⟩
    exact ⟨_, f, hf, rfl⟩

theorem call_of_not_mem (h : name ∉ table.names) (args : List Value) :
    table.call name args =
      .error (Failure.unplaced .unknownFunction ("\"" ++ name ++ "\"")) := by
  have hnone : table.find? name = none := by
    refine Option.eq_none_iff_forall_not_mem.mpr ?_
    exact fun g hg => h (FunctionTable.mem_names_iff.mpr ⟨g, hg⟩)
  unfold FunctionTable.call
  rw [hnone]

theorem call_of_length_ne (h : Records history table) (hf : Latest history name f)
    (hlength : args.length ≠ f.arity) :
    table.call name args =
      .error (Failure.unplaced .wrongArgumentCount
        ("\"" ++ name ++ "\" takes " ++ toString f.arity ++ " argument(s) but " ++
          toString args.length ++ " were given")) := by
  unfold FunctionTable.call
  rw [(h.find?_eq_some_iff name _).mpr ⟨f, hf, rfl⟩]
  exact dif_neg hlength

theorem body_eq_some_call (h : Records history table) (hf : Latest history name f)
    (hlength : args.length = f.arity) : f.body args = some (table.call name args) := by
  have hcall : table.call name args = f.toFunction.apply ⟨args.toArray, hlength⟩ := by
    unfold FunctionTable.call
    rw [(h.find?_eq_some_iff name _).mpr ⟨f, hf, rfl⟩]
    exact dif_pos hlength
  rw [hcall, f.body_eq_some hlength]

theorem failsBy_of_failsItself (h : Records history table)
    (hfails : FailsItself history name args cause) : FailsBy cause (table.call name args) := by
  obtain ⟨f, result, hf, hlength, hresult, hfailure⟩ := hfails
  rw [h.body_eq_some_call hf hlength] at hresult
  rwa [Option.some.inj hresult]

/-- A call that fails is refused for one of two causes, or the function called fails itself. -/
theorem failsBy_call_iff (h : Records history table) : FailsBy cause (table.call name args) ↔
    (cause = .unknownFunction ∧ name ∉ table.names) ∨
    (cause = .wrongArgumentCount ∧ ∃ f, Latest history name f ∧ args.length ≠ f.arity) ∨
    FailsItself history name args cause := by
  constructor
  · intro hfails
    by_cases hname : name ∈ table.names
    · obtain ⟨f, hf⟩ := h.mem_names_iff.mp hname
      by_cases hlength : args.length = f.arity
      · exact .inr (.inr ⟨f, _, hf, hlength, h.body_eq_some_call hf hlength, hfails⟩)
      · rw [h.call_of_length_ne hf hlength] at hfails
        obtain ⟨_, ⟨⟩, rfl⟩ := hfails
        exact .inr (.inl ⟨rfl, f, hf, hlength⟩)
    · rw [call_of_not_mem hname] at hfails
      obtain ⟨_, ⟨⟩, rfl⟩ := hfails
      exact .inl ⟨rfl, hname⟩
  · rintro (⟨rfl, hname⟩ | ⟨rfl, f, hf, hlength⟩ | hfails)
    · rw [call_of_not_mem hname]
      exact ⟨_, rfl, rfl⟩
    · rw [h.call_of_length_ne hf hlength]
      exact ⟨_, rfl, rfl⟩
    · exact h.failsBy_of_failsItself hfails

end Records

/-- **A table of functions is a map after any run.** Its names are in ascending order, and are those
that were registered. A call of another name is refused, and so is one with another number of
arguments than the function takes that was registered last under the name. Any other call comes to
what the body of that function does, which has a result, for it never reaches past its arguments.
Calls fail with the two causes of a refusal for no other reason, unless a function does so itself,
and those of the library do not. What a body would do with another number of arguments is not even
kept. -/
theorem map_of_registrations (origin : Origin) (ops : List Registration) :
    let table := ops.foldl Registration.run origin.table
    let history := origin.registrations ++ ops
    table.names.Pairwise (· < ·) ∧
    (∀ name, name ∈ table.names ↔ ∃ r ∈ history, r.name = name) ∧
    (∀ name, table.contains name = true ↔ name ∈ table.names) ∧
    (∀ name args,
      (name ∉ table.names →
        table.call name args =
          .error (Failure.unplaced .unknownFunction ("\"" ++ name ++ "\""))) ∧
      (name ∈ table.names → ∃ f, Latest history name f) ∧
      (∀ f, Latest history name f →
        (args.length ≠ f.arity →
          table.call name args =
            .error (Failure.unplaced .wrongArgumentCount
              ("\"" ++ name ++ "\" takes " ++ toString f.arity ++ " argument(s) but " ++
                toString args.length ++ " were given"))) ∧
        (args.length = f.arity → f.body args = some (table.call name args))) ∧
      (FailsBy .unknownFunction (table.call name args) ↔
        name ∉ table.names ∨ FailsItself history name args .unknownFunction) ∧
      (FailsBy .wrongArgumentCount (table.call name args) ↔
        (∃ f, Latest history name f ∧ args.length ≠ f.arity) ∨
          FailsItself history name args .wrongArgumentCount)) ∧
    (∀ r ∈ origin.registrations, r.registered.BlamesArguments) ∧
    (∀ wave, (ListFunction.featuresEnabled wave).BlamesArguments) ∧
    ∀ r r' : Registration, r.name = r'.name → r.registered.SameWithin r'.registered →
      r.run table = r'.run table := by
  intro table history
  have hrecords : Records history table := origin.records.steps ops
  refine ⟨hrecords.ascending, ?_, ?_, ?_, ?_, ?_, ?_⟩
  · intro name
    rw [hrecords.mem_names_iff, exists_latest_iff]
  · intro name
    rw [FunctionTable.mem_names_iff, FunctionTable.contains, Option.isSome_iff_exists]
  · intro name args
    refine ⟨fun hname => Records.call_of_not_mem hname args, hrecords.mem_names_iff.mp, ?_, ?_, ?_⟩
    · exact fun f hf => ⟨hrecords.call_of_length_ne hf, hrecords.body_eq_some_call hf⟩
    · rw [hrecords.failsBy_call_iff]
      simp
    · rw [hrecords.failsBy_call_iff]
      simp
  · exact origin.blamesArguments
  · exact ListFunction.blamesArguments_featuresEnabled
  · exact fun r r' hname hsame => Registration.run_congr hname hsame table

/-- A comparison takes the place of the test for a slash, which took one argument and would reach
past the end of none. -/
theorem map_of_registrations_replaced :
    let wave : Version := ⟨[17, 4], by decide, by decide, by decide⟩
    let less := ListFunction.comparingVersions "HasTrailingSlash" .less
    let ops : List Registration := [.function "HasTrailingSlash" less, .featureWave wave]
    let table := ops.foldl Registration.run Origin.builtin.table
    ListFunction.hasTrailingSlash.body [] = none ∧
      "hastrailingslash" ∉ table.names ∧
      FailsBy .unknownFunction (table.call "hastrailingslash" [.text "bin/"]) ∧
      FailsBy .wrongArgumentCount (table.call "HasTrailingSlash" [.text "bin/"]) ∧
      less.body [.text "1.9", .text "1.10"] =
        some (table.call "HasTrailingSlash" [.text "1.9", .text "1.10"]) ∧
      table.call "HasTrailingSlash" [.text "1.9", .text "1.10"] = .ok (.bool true) := by
  intro wave less ops table
  have hcalls := (map_of_registrations .builtin ops).2.2.2.1
  have hlatest : Latest (Origin.builtin.registrations ++ ops) "HasTrailingSlash" less :=
    ⟨Origin.builtin.registrations, .function "HasTrailingSlash" less, [.featureWave wave], rfl, rfl,
      rfl, by simp [Registration.name, Function.featureName]⟩
  have hunknown : "hastrailingslash" ∉ table.names := by decide +kernel
  refine ⟨rfl, hunknown, ?_, ?_, ?_, ?_⟩
  · exact ((hcalls _ _).2.2.2.1).mpr (.inl hunknown)
  · exact ((hcalls _ _).2.2.2.2).mpr (.inl ⟨less, hlatest, by decide⟩)
  · exact ((hcalls _ _).2.2.1 less hlatest).2 rfl
  · rfl

end BuildCondition
