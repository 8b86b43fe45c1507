import BuildCondition.Text.Blank
import BuildCondition.Text.Cut
import BuildCondition.Text.Digit

/-!
# Dotted versions

A version is one to four numbers of 64 bits, joined by points. Missing parts at the end count as
zero when versions are compared, so `15.0` and `15.0.0.0` are equal although their texts differ.
-/

namespace BuildCondition

open BuildCondition.Text

/-- One to four parts, each below 2^64. -/
structure Version where
  parts : List Nat
  nonempty : parts ≠ []
  atMostFour : parts.length ≤ 4
  bounded : ∀ n ∈ parts, n < wordLimit
  deriving DecidableEq

namespace Version

/-- One part: ASCII digits only. -/
def readPart? (cs : List Char) : Option Nat :=
  if !cs.isEmpty && cs.all Char.isDigit then some (decimal cs) else none

/-- Reads a version, with blanks around it. -/
def read? (cs : List Char) : Option Version :=
  match (fields '.' (trim cs)).mapM readPart? with
  | none => none
  | some parts =>
      if h : parts ≠ [] ∧ parts.length ≤ 4 ∧ ∀ n ∈ parts, n < wordLimit then
        some ⟨parts, h.1, h.2.1, h.2.2⟩
      else none

/-- The parts joined by points. -/
def text (v : Version) : String :=
  String.intercalate "." (v.parts.map fun n => toString n)

/-- Part `i`, zero past the end. -/
def part (v : Version) (i : Nat) : Nat :=
  (v.parts[i]?).getD 0

/-- The order of the first parts that differ. -/
def compare (v w : Version) : Ordering :=
  ((Ord.compare (v.part 0) (w.part 0)).then (Ord.compare (v.part 1) (w.part 1))).then
    ((Ord.compare (v.part 2) (w.part 2)).then (Ord.compare (v.part 3) (w.part 3)))

/-- Versions are equal when no part differs, whatever their lengths. -/
def equal (v w : Version) : Bool :=
  v.compare w == .eq

end Version

end BuildCondition
