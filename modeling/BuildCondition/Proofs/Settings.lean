import BuildCondition.Engine
import BuildCondition.Proofs.Except
import BuildCondition.Proofs.Function
import BuildCondition.Proofs.Json
import BuildCondition.Settings

/-!
# Settings as JSON

Settings that pass their check are read back as they are written (§1). Whatever settings are read
pass the check, and so an engine and its functions can be had of them (§2).
-/

namespace BuildCondition

namespace Settings

open BuildCondition.Text

variable {s : Settings}

/-! ## §1  Reading what is written -/

theorem modeOf?_modeName (m : Mode) : modeOf? (.string (modeName m)) = some m := by
  cases m <;> rfl

/-- The JSON of a wave, or of none. -/
def waveJson : Option String → Json
  | none => .null
  | some text => .string text

/-- How a wave is written. -/
def writeWave : Option String → String
  | none => "null"
  | some text => Json.writeString text

theorem waveOf?_waveJson (wave : Option String) : waveOf? (waveJson wave) = some wave := by
  cases wave <;> rfl

theorem readsAs_writeWave {size levels : Nat} (wave : Option String) :
    Json.ReadsAs size (levels + 1) (writeWave wave).toList (waveJson wave) := by
  cases wave with
  | none => exact Json.readsAs_null
  | some text => exact Json.readsAs_string text

/-- The members of the object that settings are written as. -/
def members (s : Settings) : List Json.WrittenMember :=
  [⟨"options", (Json.writeString (modeName s.mode)).toList, .string (modeName s.mode)⟩,
   ⟨"max_depth", (toString s.maxDepth).toList, .natural s.maxDepth⟩,
   ⟨"feature_wave", (writeWave s.featureWave).toList, waveJson s.featureWave⟩]

/-- Nothing in the names of the fields is escaped. -/
theorem writeString_fieldNames :
    fieldNames.map Json.writeString = ["\"options\"", "\"max_depth\"", "\"feature_wave\""] := by
  decide

theorem write_eq_objectChars (s : Settings) :
    s.write = String.ofList (Json.WrittenMember.objectChars s.members) := by
  have hwrite : s.write = "\x7b\"options\":" ++ Json.writeString (modeName s.mode) ++
      ",\"max_depth\":" ++ toString s.maxDepth ++ ",\"feature_wave\":" ++
      writeWave s.featureWave ++ "\x7d" := by
    unfold write writeWave
    cases s.featureWave <;> rfl
  have hnames := writeString_fieldNames
  simp only [fieldNames, List.map_cons, List.map_nil, List.cons.injEq, and_true] at hnames
  obtain ⟨hmode, hdepth, hwave⟩ := hnames
  refine String.toList_injective ?_
  rw [hwrite]
  simp [Json.WrittenMember.objectChars, Json.WrittenMember.chars, members, hmode, hdepth, hwave]

/-- The JSON of settings is the object of their members. -/
theorem read?_write (s : Settings) :
    Json.read? s.write = some (.object (s.members.map Json.WrittenMember.entry)) := by
  rw [write_eq_objectChars]
  refine Json.read?_objectChars (List.cons_ne_nil _ _) ?_
  simp only [members, List.forall_mem_cons]
  refine ⟨?_, ?_, ?_, List.forall_mem_nil _⟩
  · exact fun _ _ => Json.readsAs_string _
  · exact fun _ _ => Json.readsAs_natural _
  · exact fun _ _ => readsAs_writeWave _

theorem ofJson?_members (h : s.maxDepth < wordLimit) :
    ofJson? (.object (s.members.map Json.WrittenMember.entry)) = some s := by
  have hrecord : Json.asRecord? fieldNames (.object (s.members.map Json.WrittenMember.entry)) =
      some [some (.string (modeName s.mode)), some (.natural s.maxDepth),
        some (waveJson s.featureWave)] := by
    rfl
  unfold ofJson?
  rw [hrecord]
  simp [field?, modeOf?_modeName, depthOf?, h, waveOf?_waveJson]

/-! ## §2  What is read can be used -/

/-- Settings pass their check when the limit is in range and the wave, if there is one, a
version. -/
theorem check_eq_ok_iff : s.check = .ok () ↔
    (1 ≤ s.maxDepth ∧ s.maxDepth ≤ greatestDepth) ∧ ∃ found, s.wave? = .ok found := by
  unfold check
  split
  · rename_i hdepth
    rw [map_eq_ok]
    simp [hdepth]
  · rename_i hdepth
    simp [hdepth]

theorem read_eq_ok_iff {text : String} : read text = .ok s ↔
    (Json.read? text).bind ofJson? = some s ∧ s.check = .ok () := by
  unfold read
  split
  · rename_i hnone
    simp [hnone]
  · rename_i s' hsome
    rw [hsome, map_eq_ok, Option.some.injEq]
    constructor
    · rintro ⟨_, hcheck, rfl⟩
      exact ⟨rfl, hcheck⟩
    · rintro ⟨rfl, hcheck⟩
      exact ⟨(), hcheck, rfl⟩

/-- Settings that say no wave have none, and those that say one have one or are refused. -/
theorem isSome_of_wave? {found : Option Version} (h : s.wave? = .ok found) :
    found.isSome = s.featureWave.isSome := by
  unfold wave? at h
  split at h
  · rename_i hnone
    cases h
    rw [hnone]
    rfl
  · rename_i text hsome
    rw [hsome]
    split at h <;> cases h
    rfl

end Settings

theorem FunctionTable.contains_register (table : FunctionTable) (name : String) (f : Function) :
    (table.register name f).contains name = true := by
  rw [contains, find?_register, if_pos rfl]
  rfl

theorem Engine.ofSettings_of_check {s : Settings} (h : s.check = .ok ()) :
    Engine.ofSettings s = .ok ⟨s, h⟩ := by
  unfold Engine.ofSettings
  split
  · rfl
  · rename_i e he
    rw [h] at he
    cases he

namespace Settings

variable {s : Settings}

/-- There is the function that tells which features are enabled if and only if there is a wave. -/
theorem exists_functions (h : s.check = .ok ()) :
    ∃ table, s.functions = .ok table ∧
      table.contains Function.featureName = s.featureWave.isSome := by
  obtain ⟨found, hfound⟩ := (check_eq_ok_iff.mp h).2
  unfold functions
  rw [hfound, ← isSome_of_wave? hfound]
  refine ⟨_, rfl, ?_⟩
  cases found with
  | none => decide +kernel
  | some wave => exact FunctionTable.contains_register _ _ _

/-- **Settings survive JSON.** If they pass their check, they are read back from what they are
written as. Of whatever text settings are read, their limit is in range, there is an engine of them,
and there is a table of their functions, which has the one for features if and only if a wave is
said. -/
theorem survive_json :
    (∀ s : Settings, s.check = .ok () → read s.write = .ok s) ∧
    ∀ (text : String) (s : Settings), read text = .ok s →
      (1 ≤ s.maxDepth ∧ s.maxDepth ≤ 64) ∧
      (∃ engine, Engine.ofSettings s = .ok engine ∧ engine.settings = s) ∧
      ∃ table, s.functions = .ok table ∧
        table.contains "AreFeaturesEnabled" = s.featureWave.isSome := by
  constructor
  · intro s hcheck
    have hdepth := (check_eq_ok_iff.mp hcheck).1.2
    refine read_eq_ok_iff.mpr ⟨?_, hcheck⟩
    rw [read?_write, Option.bind_some, ofJson?_members]
    exact Nat.lt_of_le_of_lt hdepth (by decide)
  · intro text s hread
    have hcheck := (read_eq_ok_iff.mp hread).2
    exact ⟨(check_eq_ok_iff.mp hcheck).1, ⟨_, Engine.ofSettings_of_check hcheck, rfl⟩,
      exists_functions hcheck⟩

/-- A wave between a vertical tab and an em space survives with both, and the tab is written by its
code. Settings without their names are read too. -/
theorem survive_json_blanks_around_wave :
    let s : Settings := ⟨.propertiesOnly, 64, some "\u000B17.4\u2003"⟩
    s.check = .ok () ∧ read s.write = .ok s ∧
      read " [\"allow_properties\", 64, \"\\u000b17.4\\u2003\"]\n" = .ok s ∧
      (∃ engine, Engine.ofSettings s = .ok engine ∧ engine.settings = s) ∧
      ∃ table, s.functions = .ok table ∧ table.contains "AreFeaturesEnabled" = true := by
  intro s
  have hcheck : s.check = .ok () := rfl
  have hread : read " [\"allow_properties\", 64, \"\\u000b17.4\\u2003\"]\n" = .ok s :=
    rfl
  have hused := survive_json.2 _ s hread
  exact ⟨hcheck, survive_json.1 s hcheck, hread, hused.2.1, hused.2.2⟩

end Settings

end BuildCondition
