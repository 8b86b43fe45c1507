import BuildCondition.CommandLine.Run
import BuildCondition.Report

/-!
# The program

Evaluates the condition on the command line and prints `true` or `false`. Failures are told on
the standard error, with a report if they lie in the condition.
-/

namespace BuildCondition.Main

open BuildCondition.CommandLine

/-- The reason that an error of the system stands for. Some calls give its number with a minus
sign, as a word. -/
def readError (e : IO.Error) : ReadError :=
  let reason (code : UInt32) :=
    (ReadError.ofCode? (min code (0 - code)).toNat).getD (.other (toString e))
  match e with
  | .noFileOrDirectory _ code _ => reason code
  | .inappropriateType _ code _ => reason code
  | .invalidArgument _ code _ => reason code
  | e => .other (toString e)

/-- The files of the system. -/
def systemFiles : Files IO where
  read path := do
    if hasNul path then return .error .nulInPath
    try
      match String.fromUTF8? (← IO.FS.readBinFile path) with
      | some text => return .ok text
      | none => return .error .notText
    catch e => return .error (readError e)
  holds path := do
    if hasNul path then return false
    try
      let _ ← IO.FS.Handle.mk path .read
      return true
    catch _ => return false

/-- How the program is called. -/
def usage : String :=
  "Usage: build_condition [OPTIONS] <CONDITION>\n\n" ++
  "  -p, --property NAME=VALUE  set a property\n" ++
  "  -i, --item NAME=A;B        set the items of a type\n" ++
  "      --context FILE         read a state of the build\n" ++
  "      --config FILE          read settings\n" ++
  "      --properties-only      refuse item lists and metadata\n" ++
  "      --max-depth N          nesting limit (1-64)\n" ++
  "      --tokens               print the tokens\n" ++
  "      --tree                 print the expression\n" ++
  "  -h, --help                 print this help\n" ++
  "  -V, --version              print the version\n"

/-- Tells why a run gives no answer. -/
def explain : RunError → String
  | .condition f => Report.text f
  | e => "error: " ++ e.message ++ "\n"

/-- Runs the program and gives its exit code. -/
def program (arguments : List String) : IO UInt32 := do
  match readArguments arguments with
  | .error .help => IO.print usage; return 0
  | .error .version => IO.println "build_condition 0.1.0"; return 0
  | .error e => IO.eprint ("error: " ++ e.name ++ "\n\n" ++ usage); return 2
  | .ok (condition, asked) =>
      let outcome ← run systemFiles condition asked
      IO.print outcome.printed
      match outcome.answer with
      | .ok answer => IO.println (if answer then "true" else "false"); return 0
      | .error e => IO.eprint (explain e); return 1

end BuildCondition.Main

/-- The entry point. -/
def main (arguments : List String) : IO UInt32 :=
  BuildCondition.Main.program arguments
