/-!
# Cutting a text

A text is cut at the first place where a character stands, at every such place, or where a
run of accepted characters ends.
-/

namespace BuildCondition.Text

/-- Cuts at the first `mark`, which is left out; nothing when there is none. -/
def cutAt? (mark : Char) (cs : List Char) : Option (List Char × List Char) :=
  match cs.dropWhile (· != mark) with
  | [] => none
  | _ :: after => some (cs.takeWhile (· != mark), after)

/-- Puts a character in front of the first field. -/
def consField (c : Char) : List (List Char) → List (List Char)
  | [] => [[c]]
  | f :: fs => (c :: f) :: fs

/-- The fields between the marks: one more than there are marks. -/
def fields (mark : Char) (cs : List Char) : List (List Char) :=
  cs.foldr (fun c fs => if c = mark then [] :: fs else consField c fs) [[]]

/-- Whether `cs` starts with `start`, and what follows it. -/
def after? (start cs : List Char) : Option (List Char) :=
  match start, cs with
  | [], cs => some cs
  | _ :: _, [] => none
  | a :: start, c :: cs => if a = c then after? start cs else none

/-- The length, added to `k`, of the longest beginning all of whose characters are accepted, each
together with what follows it. -/
def runLength (accepts : Char → List Char → Bool) (k : Nat) : List Char → Nat
  | [] => k
  | c :: cs => if accepts c cs then runLength accepts (k + 1) cs else k

end BuildCondition.Text
