/-!
# Places in build files

Where a condition was written. An empty file name means that nobody knows.
-/

namespace BuildCondition

/-- A place in a build file; a line or column of zero is unknown. -/
structure Location where
  file : String
  line : Nat
  column : Nat
  deriving DecidableEq

namespace Location

/-- No known place. -/
def unknown : Location := ⟨"", 0, 0⟩

def isKnown (place : Location) : Bool :=
  place.file != ""

/-- The file with as much of the position as is known. -/
def text (place : Location) : String :=
  if place.line = 0 then place.file
  else if place.column = 0 then place.file ++ "(" ++ toString place.line ++ ")"
  else place.file ++ "(" ++ toString place.line ++ "," ++ toString place.column ++ ")"

end Location

end BuildCondition
