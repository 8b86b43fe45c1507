import BuildCondition.Text.Blank
import BuildCondition.Text.Cut
import BuildCondition.Text.Digit

/-!
# Arguments

The command line takes one condition and some options. An option has its value behind an equals
sign, or in the next argument; a one-letter option may have it attached. Behind `--` nothing is
an option any more.

A value that comes in an argument of its own is looked at when the next option or condition
comes, or at the end. An argument that is no option and no condition is refused at once,
whatever is pending.
-/

namespace BuildCondition.CommandLine

open BuildCondition.Text

/-! ## §1  What is asked for -/

/-- What the arguments ask for. -/
structure Arguments where
  condition : Option String
  properties : List (String × String)
  items : List (String × String)
  stateFile : Option String
  settingsFile : Option String
  maxDepth : Option Nat
  propertiesOnly : Bool
  tokens : Bool
  tree : Bool
  deriving DecidableEq

namespace Arguments

/-- Nothing is asked for. -/
def none : Arguments :=
  ⟨.none, [], [], .none, .none, .none, false, false, false⟩

end Arguments

/-- Why arguments are not accepted; asking for help or for the version counts as such. -/
inductive UsageError where
  | unknownArgument
  | missingCondition
  | missingValue
  | badValue
  | unwantedValue
  | repeated
  | help
  | version
  deriving DecidableEq, Repr

namespace UsageError

def name : UsageError → String
  | unknownArgument => "UnknownArgument"
  | missingCondition => "MissingRequiredArgument"
  | missingValue => "InvalidValue"
  | badValue => "ValueValidation"
  | unwantedValue => "TooManyValues"
  | repeated => "ArgumentConflict"
  | help => "DisplayHelp"
  | version => "DisplayVersion"

end UsageError

/-! ## §2  Options -/

/-- An option with a value. -/
inductive Valued where
  | property
  | item
  | stateFile
  | settingsFile
  | maxDepth
  deriving DecidableEq, Repr

/-- An option without one. -/
inductive Flag where
  | propertiesOnly
  | tokens
  | tree
  | help
  | version
  deriving DecidableEq, Repr

/-- The two kinds of options. -/
inductive Opt where
  | valued (v : Valued)
  | flag (f : Flag)
  deriving DecidableEq, Repr

namespace Opt

/-- Options by their names. -/
def ofName? (name : String) : Option Opt :=
  if name = "property" then some (valued .property)
  else if name = "item" then some (valued .item)
  else if name = "context" then some (valued .stateFile)
  else if name = "config" then some (valued .settingsFile)
  else if name = "max-depth" then some (valued .maxDepth)
  else if name = "properties-only" then some (flag .propertiesOnly)
  else if name = "tokens" then some (flag .tokens)
  else if name = "tree" then some (flag .tree)
  else if name = "help" then some (flag .help)
  else if name = "version" then some (flag .version)
  else none

/-- Options by their letters. -/
def ofLetter? (c : Char) : Option Opt :=
  if c = 'p' then some (valued .property)
  else if c = 'i' then some (valued .item)
  else if c = 'h' then some (flag .help)
  else if c = 'V' then some (flag .version)
  else none

end Opt

/-- A name with a value: what stands before and behind the first equals sign. The name is
trimmed and may not be empty. -/
def assignment? (value : String) : Option (String × String) :=
  match cutAt? '=' value.toList with
  | some (name, value) =>
      if (trim name).isEmpty then none
      else some (String.ofList (trim name), String.ofList value)
  | none => none

/-- A natural number of 64 bits, with a plus sign perhaps. -/
def count? (value : String) : Option Nat :=
  let digits := match value.toList with
    | '+' :: ds => ds
    | ds => ds
  if !digits.isEmpty && digits.all Char.isDigit && decimal digits < wordLimit then
    some (decimal digits)
  else none

namespace Arguments

/-- Takes an option with its value into account. -/
def withValue (a : Arguments) (v : Valued) (value : String) : Except UsageError Arguments :=
  match v with
  | .property =>
      match assignment? value with
      | some p => .ok { a with properties := a.properties ++ [p] }
      | .none => .error .badValue
  | .item =>
      match assignment? value with
      | some p => .ok { a with items := a.items ++ [p] }
      | .none => .error .badValue
  | .stateFile =>
      if a.stateFile.isSome then .error .repeated
      else if value = "" then .error .missingValue
      else .ok { a with stateFile := some value }
  | .settingsFile =>
      if a.settingsFile.isSome then .error .repeated
      else if value = "" then .error .missingValue
      else .ok { a with settingsFile := some value }
  | .maxDepth =>
      if a.maxDepth.isSome then .error .repeated
      else
        match count? value with
        | some n => .ok { a with maxDepth := some n }
        | .none => .error .badValue

/-- Takes an option without a value into account. -/
def withFlag (a : Arguments) (f : Flag) : Except UsageError Arguments :=
  match f with
  | .propertiesOnly =>
      if a.propertiesOnly then .error .repeated else .ok { a with propertiesOnly := true }
  | .tokens => if a.tokens then .error .repeated else .ok { a with tokens := true }
  | .tree => if a.tree then .error .repeated else .ok { a with tree := true }
  | .help => .error .help
  | .version => .error .version

end Arguments

/-! ## §3  Reading arguments -/

/-- How far the arguments have been read: what they ask for so far, an option that waits for its
value or whose value has not been looked at, and whether options are over. -/
structure Progress where
  asked : Arguments
  pending : Option (Valued × Option String)
  literal : Bool

namespace Progress

def start : Progress := ⟨.none, none, false⟩

/-- Looks at the value of the pending option. -/
def settle (p : Progress) : Except UsageError Progress :=
  match p.pending with
  | none => .ok p
  | some (_, none) => .error .missingValue
  | some (v, some value) =>
      (p.asked.withValue v value).map fun asked => ⟨asked, none, p.literal⟩

/-- An option with a value attached. -/
def attach (p : Progress) (v : Valued) (value : String) : Except UsageError Progress :=
  p.settle.bind fun p => (p.asked.withValue v value).map fun asked => { p with asked := asked }

/-- An option whose value is in the next argument. -/
def await (p : Progress) (v : Valued) : Except UsageError Progress :=
  p.settle.map fun p => { p with pending := some (v, none) }

/-- An option without a value. -/
def raise (p : Progress) (f : Flag) : Except UsageError Progress :=
  p.settle.bind fun p => (p.asked.withFlag f).map fun asked => { p with asked := asked }

/-- The condition; there may be only one. -/
def condition (p : Progress) (text : String) : Except UsageError Progress :=
  if p.asked.condition.isSome then .error .unknownArgument
  else p.settle.map fun p => { p with asked := { p.asked with condition := some text } }

/-- An option by its name, without the two hyphens. -/
def named (p : Progress) (cs : List Char) : Except UsageError Progress :=
  let parts := (cutAt? '=' cs).map fun (name, value) => (name, some (String.ofList value))
  let (name, value?) := parts.getD (cs, none)
  match Opt.ofName? (String.ofList name), value? with
  | none, _ => .error .unknownArgument
  | some (.valued v), some value => p.attach v value
  | some (.valued v), none => p.await v
  | some (.flag _), some _ => .error .unwantedValue
  | some (.flag f), none => p.raise f

/-- Options by their letters, without the hyphen. -/
def lettered (p : Progress) : List Char → Except UsageError Progress
  | [] => .ok p
  | c :: cs =>
      match Opt.ofLetter? c with
      | none => .error .unknownArgument
      | some (.flag f) => (p.raise f).bind fun p => lettered p cs
      | some (.valued v) =>
          match cs with
          | [] => p.await v
          | '=' :: value => p.attach v (String.ofList value)
          | value => p.attach v (String.ofList value)

/-- An argument that is not an option by its looks: the value of the option before it, or the
condition. -/
def plain (p : Progress) (argument : String) : Except UsageError Progress :=
  match p.pending, p.literal with
  | some (v, none), false => .ok { p with pending := some (v, some argument) }
  | _, _ => p.condition argument

/-- One argument. -/
def next (p : Progress) (argument : String) : Except UsageError Progress :=
  if p.literal then p.plain argument
  else
    match argument.toList with
    | ['-', '-'] => .ok { p with literal := true }
    | '-' :: '-' :: cs => p.named cs
    | '-' :: c :: cs => p.lettered (c :: cs)
    | _ => p.plain argument

end Progress

/-- What some arguments ask for, and the condition. -/
def readArguments (arguments : List String) : Except UsageError (String × Arguments) := do
  let p ← arguments.foldlM Progress.next Progress.start
  let p ← p.settle
  match p.asked.condition with
  | some condition => .ok (condition, p.asked)
  | none => .error .missingCondition

end BuildCondition.CommandLine
