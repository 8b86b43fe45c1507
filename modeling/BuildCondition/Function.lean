import BuildCondition.Failure
import BuildCondition.Operator
import BuildCondition.Value

/-!
# Functions

A function takes a fixed number of values. A table of functions finds them by their exact names,
keeps the names in order, and refuses calls of unknown functions and calls with a wrong number
of arguments; the function itself never sees such a call.
-/

namespace BuildCondition

/-- A function of so many values. Its failures have no position; the call gives them one. -/
structure Function where
  arity : Nat
  apply : Vector Value arity → Except Failure Value

namespace Function

/-- Reads an argument as a version. -/
def versionArgument (name : String) (v : Value) : Except Failure Version :=
  match v.asVersion? with
  | some version => .ok version
  | none =>
      .error (Failure.unplaced .invalidArgument
        ("\"" ++ name ++ "\" expects a version, got \"" ++ v.asText ++ "\""))

/-- Whether a text ends in a slash or a backslash. -/
def endsInSlash (cs : List Char) : Bool :=
  cs.getLast? == some '/' || cs.getLast? == some '\\'

/-- Whether a path is written as a directory. -/
def hasTrailingSlash : Function :=
  ⟨1, fun args => .ok (.bool (endsInSlash args[0].asText.toList))⟩

/-- A comparison of two versions. -/
def comparingVersions (name : String) (op : Comparison) : Function :=
  ⟨2, fun args =>
    (versionArgument name args[0]).bind fun v =>
      (versionArgument name args[1]).map fun w => .bool (op.accepts (v.compare w))⟩

/-- The name of the function that a feature wave adds. -/
def featureName : String := "AreFeaturesEnabled"

/-- Whether the features of a wave are enabled when those up to `wave` are. -/
def featuresEnabled (wave : Version) : Function :=
  ⟨1, fun args =>
    (versionArgument featureName args[0]).map fun asked =>
      .bool (Comparison.lessOrEqual.accepts (asked.compare wave))⟩

end Function

/-- Functions by name, in ascending order of the names. -/
structure FunctionTable where
  entries : List (String × Function)

namespace FunctionTable

def empty : FunctionTable := ⟨[]⟩

/-- Puts a function at its place among those in order, instead of one of the same name. -/
def insertInto (name : String) (f : Function) :
    List (String × Function) → List (String × Function)
  | [] => [(name, f)]
  | (other, g) :: entries =>
      if name < other then (name, f) :: (other, g) :: entries
      else if name = other then (name, f) :: entries
      else (other, g) :: insertInto name f entries

/-- Registers a function, instead of one of the same name. -/
def register (table : FunctionTable) (name : String) (f : Function) : FunctionTable :=
  ⟨insertInto name f table.entries⟩

/-- The names of the functions, in ascending order. -/
def names (table : FunctionTable) : List String :=
  table.entries.map Prod.fst

def find? (table : FunctionTable) (name : String) : Option Function :=
  table.entries.lookup name

def contains (table : FunctionTable) (name : String) : Bool :=
  (table.find? name).isSome

/-- Calls a function by name. -/
def call (table : FunctionTable) (name : String) (arguments : List Value) : Except Failure Value :=
  match table.find? name with
  | none => .error (Failure.unplaced .unknownFunction ("\"" ++ name ++ "\""))
  | some f =>
      if h : arguments.length = f.arity then f.apply ⟨arguments.toArray, h⟩
      else
        .error (Failure.unplaced .wrongArgumentCount
          ("\"" ++ name ++ "\" takes " ++ toString f.arity ++ " argument(s) but " ++
            toString arguments.length ++ " were given"))

/-- The comparisons of versions, by the names of their functions. -/
def versionFunctions : List (String × Comparison) :=
  [("VersionEquals", .equal), ("VersionNotEquals", .notEqual), ("VersionLessThan", .less),
   ("VersionLessThanOrEquals", .lessOrEqual), ("VersionGreaterThan", .greater),
   ("VersionGreaterThanOrEquals", .greaterOrEqual)]

/-- The functions that are always there. -/
def builtin : FunctionTable :=
  versionFunctions.foldl (fun table entry =>
      table.register entry.1 (Function.comparingVersions entry.1 entry.2))
    (empty.register "HasTrailingSlash" Function.hasTrailingSlash)

/-- Adds the function that tells which features are enabled, for waves up to `wave`. -/
def withFeatureWave (table : FunctionTable) (wave : Version) : FunctionTable :=
  table.register Function.featureName (Function.featuresEnabled wave)

end FunctionTable

end BuildCondition
