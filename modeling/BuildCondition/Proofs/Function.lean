import BuildCondition.Function
import BuildCondition.Proofs.Except

/-!
# Tables of functions

Registering a function changes what is found under its name and nothing else (§1). Functions do not
know where they are called. If none of those in a table gives its failures a position, no call of
the table does, and so it is with the functions that are always there (§2). Those that compare
versions differ in their names and in the orders that they accept (§3).
-/

namespace BuildCondition

/-! ## §1  Registering -/

/-- What is found under a name in a table with one more entry in front. -/
theorem lookup_cons_name {β : Type} (n name : String) (b : β) (entries : List (String × β)) :
    List.lookup n ((name, b) :: entries) = if n = name then some b else entries.lookup n := by
  by_cases h : n = name
  · subst h
    rw [if_pos rfl, List.lookup_cons_self]
  · rw [if_neg h, List.lookup_cons, beq_eq_false_iff_ne.mpr h]

namespace FunctionTable

variable {table : FunctionTable} {name : String} {f : Function}

theorem lookup_insertInto (name n : String) (f : Function) (entries : List (String × Function)) :
    (insertInto name f entries).lookup n = if n = name then some f else entries.lookup n := by
  induction entries with
  | nil => exact lookup_cons_name n name f []
  | cons entry entries ih =>
      obtain ⟨other, g⟩ := entry
      rw [insertInto]
      split
      · exact lookup_cons_name n name f _
      · split
        · rename_i heq
          subst heq
          rw [lookup_cons_name, lookup_cons_name]
          split <;> rfl
        · rename_i hne
          rw [lookup_cons_name, lookup_cons_name, ih]
          -- no entry of another name is in the way
          by_cases hn : n = other
          · rw [if_pos hn, if_pos hn, if_neg (hn ▸ Ne.symm hne)]
          · rw [if_neg hn, if_neg hn]

theorem find?_register (table : FunctionTable) (name n : String) (f : Function) :
    (table.register name f).find? n = if n = name then some f else table.find? n :=
  lookup_insertInto name n f table.entries

/-! ## §2  Failures without a position -/

end FunctionTable

/-- The failures of a function have no position. -/
def Function.Unplaced (f : Function) : Prop :=
  ∀ args failure, f.apply args = .error failure → failure.position = 0

namespace Function

theorem unplaced_versionArgument {name : String} {v : Value} {failure : Failure}
    (h : versionArgument name v = .error failure) : failure.position = 0 := by
  unfold versionArgument at h
  split at h <;> cases h
  rfl

theorem unplaced_hasTrailingSlash : hasTrailingSlash.Unplaced := by
  intro args failure h
  cases h

theorem unplaced_comparingVersions (name : String) (op : Comparison) :
    (comparingVersions name op).Unplaced := by
  intro args failure h
  rcases bind_eq_error.mp h with h | ⟨v, _, h⟩
  · exact unplaced_versionArgument h
  · exact unplaced_versionArgument (map_eq_error.mp h)

theorem unplaced_featuresEnabled (wave : Version) : (featuresEnabled wave).Unplaced := by
  intro args failure h
  exact unplaced_versionArgument (map_eq_error.mp h)

end Function

namespace FunctionTable

variable {table : FunctionTable} {name : String} {f : Function}

/-- No function of a table gives its failures a position. -/
def Unplaced (table : FunctionTable) : Prop :=
  ∀ name f, table.find? name = some f → f.Unplaced

theorem Unplaced.register (h : table.Unplaced) (hf : f.Unplaced) (name : String) :
    (table.register name f).Unplaced := by
  intro n g hg
  rw [find?_register] at hg
  split at hg
  · cases hg
    exact hf
  · exact h n g hg

theorem unplaced_empty : empty.Unplaced := by
  intro name f h
  cases h

theorem unplaced_builtin : builtin.Unplaced := by
  have hversions : ∀ (entries : List (String × Comparison)) (table : FunctionTable),
      table.Unplaced → (entries.foldl (fun table entry =>
        table.register entry.1 (Function.comparingVersions entry.1 entry.2)) table).Unplaced := by
    intro entries
    induction entries with
    | nil => exact fun _ h => h
    | cons entry entries ih =>
        exact fun table h => ih _ (h.register (Function.unplaced_comparingVersions _ _) _)
  exact hversions _ _ (unplaced_empty.register Function.unplaced_hasTrailingSlash _)

theorem Unplaced.withFeatureWave (h : table.Unplaced) (wave : Version) :
    (table.withFeatureWave wave).Unplaced :=
  h.register (Function.unplaced_featuresEnabled wave) _

/-- Nor does a call of the table. -/
theorem Unplaced.call (h : table.Unplaced) {arguments : List Value} {failure : Failure}
    (hcall : table.call name arguments = .error failure) : failure.position = 0 := by
  unfold FunctionTable.call at hcall
  split at hcall
  · cases hcall
    rfl
  · rename_i f hf
    split at hcall
    · exact h name f hf _ _ hcall
    · cases hcall
      rfl

/-! ## §3  Comparisons of versions -/

theorem find?_builtin {name : String} {op : Comparison} (h : (name, op) ∈ versionFunctions) :
    builtin.find? name = some (Function.comparingVersions name op) := by
  simp only [versionFunctions, List.mem_cons, List.not_mem_nil, or_false, Prod.mk.injEq] at h
  simp only [builtin, versionFunctions, List.foldl_cons, List.foldl_nil, find?_register]
  rcases h with ⟨rfl, rfl⟩ | ⟨rfl, rfl⟩ | ⟨rfl, rfl⟩ | ⟨rfl, rfl⟩ | ⟨rfl, rfl⟩ | ⟨rfl, rfl⟩ <;> simp

/-- A function that compares versions has a value if its arguments are versions, and then it
accepts their order or not. -/
theorem call_builtin_eq_ok_iff {name : String} {op : Comparison}
    (h : (name, op) ∈ versionFunctions) {a b x : Value} :
    builtin.call name [a, b] = .ok x ↔ ∃ v w, a.asVersion? = some v ∧ b.asVersion? = some w ∧
      x = .bool (op.accepts (v.compare w)) := by
  have hargument : ∀ {a : Value} {v : Version},
      Function.versionArgument name a = .ok v ↔ a.asVersion? = some v := by
    intro a v
    unfold Function.versionArgument
    cases a.asVersion? <;> simp
  have hcall : builtin.call name [a, b] =
      (Function.versionArgument name a).bind fun v =>
        (Function.versionArgument name b).map fun w => .bool (op.accepts (v.compare w)) := by
    unfold FunctionTable.call
    rw [find?_builtin h]
    rfl
  rw [hcall, bind_eq_ok]
  simp only [map_eq_ok, hargument]
  constructor
  · rintro ⟨v, hv, w, hw, rfl⟩
    exact ⟨v, w, hv, hw, rfl⟩
  · rintro ⟨v, w, hv, hw, rfl⟩
    exact ⟨v, hv, w, hw, rfl⟩

end FunctionTable

end BuildCondition
