import BuildCondition.Function
import BuildCondition.Json
import BuildCondition.Mode

/-!
# Settings

What conditions may refer to, how deep they may be nested, and which features are enabled.
Settings are read from JSON, where everything may be left out, and are checked before they are
used.
-/

namespace BuildCondition

/-- How conditions are read and which functions they may call. -/
structure Settings where
  mode : Mode
  maxDepth : Nat
  featureWave : Option String
  deriving DecidableEq

/-- Why settings cannot be used. -/
inductive SettingsError where
  /-- a file that cannot be read, and the reason -/
  | unreadable (path reason : String)
  /-- a text that is no JSON, or not the JSON of settings -/
  | malformed
  /-- a nesting limit out of range -/
  | depth (n : Nat)
  /-- a feature wave that is no version -/
  | wave (text : String)
  deriving DecidableEq

namespace SettingsError

def name : SettingsError → String
  | unreadable _ _ => "Io"
  | malformed => "Json"
  | depth _ => "InvalidDepth"
  | wave _ => "InvalidFeatureWave"

def message : SettingsError → String
  | unreadable path reason => "Failed to read config " ++ path ++ ": " ++ reason
  | malformed => "Failed to parse config"
  | depth n => "max_depth must be between 1 and 64, got " ++ toString n
  | wave text => "feature_wave must be a version such as \"17.4\", got \"" ++ text ++ "\""

end SettingsError

namespace Settings

/-- The largest nesting limit. -/
def greatestDepth : Nat := 64

/-- What holds if nothing is said: everything is allowed, fifty levels, no features. -/
def default : Settings := ⟨.everything, 50, none⟩

/-! ## §1  Checking -/

/-- The version up to which features are enabled, if there is one. -/
def wave? (s : Settings) : Except SettingsError (Option Version) :=
  match s.featureWave with
  | none => .ok none
  | some text =>
      match Version.read? text.toList with
      | some v => .ok (some v)
      | none => .error (.wave text)

/-- Settings are usable with a limit from one to sixty-four and a wave that is a version. -/
def check (s : Settings) : Except SettingsError Unit :=
  if 1 ≤ s.maxDepth ∧ s.maxDepth ≤ greatestDepth then s.wave?.map fun _ => ()
  else .error (.depth s.maxDepth)

/-- The functions that conditions may call. -/
def functions (s : Settings) : Except SettingsError FunctionTable :=
  s.wave?.map fun wave? =>
    match wave? with
    | some wave => FunctionTable.builtin.withFeatureWave wave
    | none => FunctionTable.builtin

/-! ## §2  JSON -/

/-- How a mode is written. -/
def modeName : Mode → String
  | .everything => "allow_all"
  | .propertiesOnly => "allow_properties"

def modeOfName? (s : String) : Option Mode :=
  if s = modeName .everything then some .everything
  else if s = modeName .propertiesOnly then some .propertiesOnly
  else none

/-- A mode is a string, or an object with its name and nothing. -/
def modeOf? : Json → Option Mode
  | .string s => modeOfName? s
  | .object [(name, .null)] => modeOfName? name
  | _ => none

/-- A number of 64 bits. -/
def depthOf? : Json → Option Nat
  | .natural n => if n < Text.wordLimit then some n else none
  | _ => none

/-- A text, or null for none. -/
def waveOf? : Json → Option (Option String)
  | .null => some none
  | .string s => some (some s)
  | _ => none

/-- A field, which has a value of its own if it is left out. -/
def field? {α : Type} (missing : α) (read : Json → Option α) : Option Json → Option α
  | none => some missing
  | some j => read j

/-- The names of the fields. -/
def fieldNames : List String := ["options", "max_depth", "feature_wave"]

/-- The settings of a JSON value, unchecked. -/
def ofJson? (j : Json) : Option Settings :=
  match Json.asRecord? fieldNames j with
  | some [mode?, depth?, wave?] => do
      let mode ← field? Mode.everything modeOf? mode?
      let depth ← field? default.maxDepth depthOf? depth?
      let wave ← field? none waveOf? wave?
      some ⟨mode, depth, wave⟩
  | _ => none

/-- Reads settings and checks them. -/
def read (text : String) : Except SettingsError Settings :=
  match (Json.read? text).bind ofJson? with
  | none => .error .malformed
  | some s => s.check.map fun _ => s

/-- Settings as JSON. -/
def write (s : Settings) : String :=
  "\x7b\"options\":" ++ Json.writeString (modeName s.mode) ++
    ",\"max_depth\":" ++ toString s.maxDepth ++
    ",\"feature_wave\":" ++ (match s.featureWave with
      | some text => Json.writeString text
      | none => "null") ++ "\x7d"

end Settings

end BuildCondition
