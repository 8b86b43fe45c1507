import BuildCondition.Failure
import BuildCondition.Text.Blank
import BuildCondition.Text.Width

/-!
# Reports

A report shows the line of the condition in which a failure lies, and points at the character it
is about. Lines are counted from one, as are the characters in a line; the end of a line belongs
to it. A failure without a place, or with one past the end, is put at the nearest place there
is.
-/

namespace BuildCondition

open BuildCondition.Text

namespace Report

/-! ## §1  Lines -/

/-- The characters that end a line. -/
def lineEnds : List Char :=
  ['\n', '\r', '\u000B', '\u000C', '\u0085', '\u2028', '\u2029']

/-- Whether a line ends with `c`, given what follows; a carriage return and a line feed are
one end. -/
def endsLine (c : Char) (after : List Char) : Bool :=
  lineEnds.contains c && !(c == '\r' && after.head? == some '\n')

/-- The lines of a text, behind those in `done` and the beginning of a line in `line`, which
both run backwards. -/
def linesFrom (done : List (List Char)) (line : List Char) : List Char → List (List Char)
  | [] => if line.isEmpty && !done.isEmpty then done.reverse else (line.reverse :: done).reverse
  | c :: cs =>
      if endsLine c cs then linesFrom ((c :: line).reverse :: done) [] cs
      else linesFrom done (c :: line) cs

/-- The lines of a text with their ends. Nothing follows an end that is last. -/
def lines (cs : List Char) : List (List Char) :=
  linesFrom [] [] cs

/-- A place in a text: the number of a line, the characters in it before the place, and its
text. -/
structure Spot where
  number : Nat
  column : Nat
  line : List Char
  deriving DecidableEq, Repr

/-- The place after `n` characters of a line and those behind it. A place at the end of a line
is in the next line if there is one. -/
def spotFrom (number n : Nat) (line : List Char) : List (List Char) → Spot
  | [] => ⟨number, n, line⟩
  | next :: more =>
      if line.length ≤ n then spotFrom (number + 1) (n - line.length) next more
      else ⟨number, n, line⟩

/-- The place after `n` characters of a text. -/
def spot (n : Nat) (cs : List Char) : Spot :=
  match lines cs with
  | [] => ⟨1, n, []⟩
  | line :: more => spotFrom 1 n line more

/-! ## §2  Columns -/

/-- The columns of a character in a line: a tab reaches to the next multiple of four characters. -/
def columnsAt (column : Nat) (c : Char) : Nat :=
  if c = '\t' then 4 - column % 4 else if isBlank c then 1 else columns c

/-- A line as it is shown: blanks as spaces. What is done is in `done`, which runs backwards. -/
def showOnto (done : List Char) (column : Nat) : List Char → List Char
  | [] => done.reverse
  | c :: cs =>
      let shown := if isBlank c then List.replicate (columnsAt column c) ' ' else [c]
      showOnto (shown ++ done) (column + 1) cs

/-- Passes over `n` characters: adds up their columns on `sum`, and gives the rest. Behind the
line every character takes one column. -/
def passOver (sum column : Nat) : Nat → List Char → Nat × List Char
  | 0, cs => (sum, cs)
  | n + 1, [] => passOver (sum + 1) (column + 1) n []
  | n + 1, c :: cs => passOver (sum + columnsAt column c) (column + 1) n cs

/-- The columns of the first character of what is left of a line. -/
def headColumns (column : Nat) : List Char → Nat
  | [] => 1
  | c :: _ => columnsAt column c

/-- A mark that is drawn over so many columns: once, and then another to fill them up. -/
def drawn (width : Nat) (mark fill : Char) : List Char :=
  match width with
  | 0 => []
  | width + 1 => mark :: List.replicate width fill

/-! ## §3  The report -/

def spaces (n : Nat) : String :=
  String.ofList (List.replicate n ' ')

/-- The lines that point at a place of a shown line, and the message. -/
def pointer (s : Spot) (message : String) : String × String :=
  let (indent, rest) := passOver 0 0 s.column (trimEnd s.line)
  let width := headColumns s.column rest
  let behind := headColumns (s.column + 1) (rest.drop 1)
  (spaces indent ++ String.ofList (drawn width '│' ' ' ++ drawn behind ' ' ' '),
    spaces indent ++ String.ofList (drawn width '╰' '─' ++ drawn behind '─' '─') ++ " " ++ message)

/-- What stands before the place in the heading of a report. -/
def sourceName (place : Location) : String :=
  if place.isKnown then place.text else "condition"

/-- The place in the condition that a failure is shown at. -/
def spotOf (f : Failure) : Spot :=
  let cs := f.condition.toList
  spot (min (f.position - 1) cs.length) cs

/-- The report of a failure. -/
def text (f : Failure) : String :=
  let s := spotOf f
  let number := toString s.number
  let margin := spaces (number.length + 2)
  let pointers := pointer s f.message
  String.join
    ["[" ++ f.cause.code ++ "] Error: " ++ f.cause.summary ++ "\n",
     margin ++ "╭─[ " ++ sourceName f.place ++ ":" ++ number ++ ":" ++ toString (s.column + 1) ++
       " ]\n",
     margin ++ "│\n",
     " " ++ number ++ " │ " ++ String.ofList (showOnto [] 0 (trimEnd s.line)) ++ "\n",
     margin ++ "│ " ++ pointers.1 ++ "\n",
     margin ++ "│ " ++ pointers.2 ++ "\n",
     String.ofList (List.replicate (number.length + 2) '─') ++ "╯\n"]

end Report

end BuildCondition
