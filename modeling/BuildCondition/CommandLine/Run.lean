import BuildCondition.CommandLine.Arguments
import BuildCondition.CommandLine.Files
import BuildCondition.CommandLine.StateFile
import BuildCondition.Engine
import BuildCondition.Expr.Printer

/-!
# Running from the command line

Settings come from a file, and options override them. The state of the build comes from a file,
and options add to it. Before a condition is evaluated, its tokens and its expression are
printed if that is asked for. Conditions may also ask whether a file exists.

All this is said for any way of getting at files; the program proper uses those of the system.
-/

namespace BuildCondition.CommandLine

open BuildCondition.Text

/-- Why a run gives no answer. -/
inductive RunError where
  | settings (e : SettingsError)
  | stateUnreadable (path : String)
  | stateMalformed (path : String)
  | condition (f : Failure)
  deriving DecidableEq

namespace RunError

def message : RunError → String
  | settings e => e.message
  | stateUnreadable path => "Failed to read context " ++ path
  | stateMalformed path => "Failed to parse context " ++ path
  | condition f => f.message

end RunError

/-- What a run prints, and its answer. -/
structure Outcome where
  printed : String
  answer : Except RunError Bool

section

variable {m : Type → Type} [Monad m]

/-! ## §1  Settings -/

/-- The settings of the file that is named, or those that hold if nothing is said. -/
def settingsFrom (files : Files m) : Option String → m (Except SettingsError Settings)
  | none => pure (.ok Settings.default)
  | some path => do
      let text ← files.read path
      pure (match text with
        | .ok text => Settings.read text
        | .error e => .error (.unreadable path e.message))

/-- Settings as the options override them. -/
def overridden (a : Arguments) (s : Settings) : Settings :=
  { s with
    mode := if a.propertiesOnly then .propertiesOnly else s.mode
    maxDepth := a.maxDepth.getD s.maxDepth }

/-- The engine for some arguments. -/
def engineFor (files : Files m) (a : Arguments) : m (Except SettingsError Engine) := do
  let settings ← settingsFrom files a.settingsFile
  pure (settings.bind fun s => Engine.ofSettings (overridden a s))

/-! ## §2  State -/

/-- The name of the function that asks for files. -/
def existsName : String := "Exists"

/-- Whether a file exists, given what was found at its path. -/
def existsFunction (found : Bool) : Function :=
  ⟨1, fun _ => .ok (.bool found)⟩

/-- What the path in a question about a file leads to. A blank path leads nowhere. -/
def existence (files : Files m) : Query → m Bool
  | .call name [path] =>
      let path := trim path.asText.toList
      if name = existsName ∧ !path.isEmpty then files.holds (String.ofList path) else pure false
  | _ => pure false

/-- The items that an option lists, with semicolons between them. -/
def listedItems (text : String) : List String :=
  ((fields ';' text.toList).filter fun item => !item.isEmpty).map String.ofList

/-- Adds what the options say. -/
def withOptions (a : Arguments) (bag : Bag) : Bag :=
  let bag := a.properties.foldl (fun bag p => bag.setProperty p.1 p.2) bag
  a.items.foldl (fun bag i => StateFile.addItems bag i.1 (listedItems i.2)) bag

/-- What the state file that is named holds; nothing if none is. -/
def stateFrom (files : Files m) : Option String → m (Except RunError StateFile)
  | none => pure (.ok ⟨[], [], []⟩)
  | some path => do
      let text ← files.read path
      pure (match text with
        | .error _ => .error (.stateUnreadable path)
        | .ok text =>
            match StateFile.read? text with
            | some file => .ok file
            | none => .error (.stateMalformed path))

/-- The state of the build: the functions of the engine, the state file, and the options. -/
def buildState (functions : FunctionTable) (file : StateFile) (a : Arguments) : Bag :=
  withOptions a
    (file.addTo ((Bag.withFunctions functions).register existsName (existsFunction false)))

/-- The state of the build for some arguments. -/
def bagFor (files : Files m) (a : Arguments) (engine : Engine) : m (Except RunError Bag) :=
  match engine.functions with
  | .error e => pure (.error (.settings e))
  | .ok functions => do
      let file ← stateFrom files a.stateFile
      pure (file.map fun file => buildState functions file a)

/-- The answers of a state, where files are looked for when somebody asks for them. -/
def answerWith (files : Files m) (bag : Bag) (q : Query) : m q.Answer := do
  let found ← existence files q
  pure ((bag.register existsName (existsFunction found)).state q)

/-! ## §3  The run -/

/-- The listing of the tokens, if it is asked for. -/
def listing (engine : Engine) (condition : String) (a : Arguments) : Except Failure String :=
  if a.tokens then
    (tokenize engine.settings.mode condition).map fun ts =>
      String.join (ts.map fun t => t.listing ++ "\n")
  else .ok ""

/-- The printed expression, if it is asked for; an empty condition has none. -/
def printedTree (engine : Engine) (condition : String) (a : Arguments) : Except Failure String :=
  if a.tree && condition != "" then
    (engine.parse Location.unknown condition).map fun e => e.render ++ "\n"
  else .ok ""

/-- Prints what is asked for and evaluates the condition. -/
def runIn (files : Files m) (engine : Engine) (bag : Bag) (condition : String) (a : Arguments) :
    m Outcome :=
  match listing engine condition a with
  | .error f => pure ⟨"", .error (.condition (f.withSource condition Location.unknown))⟩
  | .ok listed =>
      match printedTree engine condition a with
      | .error f => pure ⟨listed, .error (.condition f)⟩
      | .ok tree => do
          let answer ← (engine.evaluate Location.unknown condition).runWith (answerWith files bag)
          pure ⟨listed ++ tree, answer.mapError .condition⟩

/-- A run for some arguments. -/
def run (files : Files m) (condition : String) (a : Arguments) : m Outcome := do
  match ← engineFor files a with
  | .error e => pure ⟨"", .error (.settings e)⟩
  | .ok engine =>
      match ← bagFor files a engine with
      | .error e => pure ⟨"", .error e⟩
      | .ok bag => runIn files engine bag condition a

end

end BuildCondition.CommandLine
