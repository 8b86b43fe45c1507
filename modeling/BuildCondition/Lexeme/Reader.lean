import BuildCondition.Failure
import BuildCondition.Lexeme
import BuildCondition.Mode
import BuildCondition.Text.Blank
import BuildCondition.Text.Cut
import BuildCondition.Text.Digit
import BuildCondition.Text.Letter

/-!
# Reading one lexeme

`readLexeme` looks at a text that does not start with a blank and tells which lexeme it starts
with, or what is wrong there. The lexeme that is read is a beginning of the text, so that its width
tells where reading goes on.

Each of the bracketed lexemes has a rule of its own for where it ends:

* a property ends at the parenthesis that matches its first one; references to properties inside it
  are levels of their own, and a level whose text is a name with blanks is refused;
* an item list ends at the matching parenthesis outside quotes;
* metadata end at the next parenthesis;
* a quoted text ends at the next quote that does not belong to an item list inside it.
-/

namespace BuildCondition

open BuildCondition.Text

/-! ## §1  Faults -/

/-- What is wrong with a lexeme: the cause, the text found if that is to be told, how far
behind the start of the lexeme the fault lies, and how many characters have been given up. -/
structure Fault where
  cause : Cause
  found : Option String
  ahead : Nat
  consumed : Nat
  deriving DecidableEq, Repr

namespace Fault

/-- The failure of a fault in a lexeme that starts after `start` characters. -/
def failure (f : Fault) (start : Nat) : Failure :=
  match f.found with
  | some text => Failure.foundAt f.cause (start + f.ahead + 1) text
  | none => Failure.bareAt f.cause (start + f.ahead + 1)

end Fault

/-- The character a text starts with, or that there is none. -/
def describeHead : List Char → String
  | [] => Terminal.endName
  | c :: _ => String.singleton c

namespace Lexeme

/-! ## §2  Properties -/

/-- One level of a property reference: its open parentheses, the last blank in it, and whether
there is a character in it that is no blank, no parenthesis, and does not occur in names. -/
structure Level where
  parens : Nat
  blank : Option (Nat × Char)
  other : Bool
  deriving DecidableEq, Repr

namespace Level

/-- A level before its first parenthesis. -/
def fresh : Level := ⟨0, none, false⟩

/-- Takes the character at place `k` into account. -/
def note (level : Level) (k : Nat) (c : Char) : Level :=
  if c = '(' then { level with parens := level.parens + 1 }
  else if c = ')' then { level with parens := level.parens - 1 }
  else if isBlank c then { level with blank := some (k, c) }
  else if !isNameChar c then { level with other := true }
  else level

/-- A blank that may not be there. -/
def strayBlank? (level : Level) : Option (Nat × Char) :=
  if level.other then none else level.blank

end Level

/-- How a property reference ends. -/
inductive PropertyEnd where
  /-- with the parenthesis at this place -/
  | closed (k : Nat)
  /-- not, for a blank at this place -/
  | stray (k : Nat) (c : Char)
  /-- not at all -/
  | missing
  deriving DecidableEq, Repr

/-- Finds the end of a property reference from its first parenthesis on, which is at place `k`. The
levels around the present one are in `outer`. -/
def propertyEnd (outer : List Level) (level : Level) (k : Nat) : List Char → PropertyEnd
  | [] => .missing
  | c :: cs =>
      if c = ')' ∧ level.parens ≤ 1 then
        match level.strayBlank? with
        | some (b, blank) => .stray b blank
        | none =>
            match outer with
            | [] => .closed k
            | around :: outer => propertyEnd outer around (k + 1) cs
      else if c = '$' ∧ cs.head? = some '(' then
        propertyEnd (level.note k c :: outer) Level.fresh (k + 1) cs
      else propertyEnd outer (level.note k c) (k + 1) cs

/-- The body of a reference that opens with a sigil and a parenthesis, up to place `k` behind
them. -/
def referenceUpTo (sigil : Sigil) (k : Nat) (cs : List Char) : Lexeme :=
  reference ⟨sigil, String.ofList (cs.take k)⟩

/-- A lexeme that starts with `$`, of which `cs` is the rest. -/
def readProperty (cs : List Char) : Except Fault Lexeme :=
  match cs with
  | '(' :: body =>
      match propertyEnd [] Level.fresh 1 cs with
      | .closed k => .ok (referenceUpTo .property (k - 2) body)
      | .stray k c => .error ⟨.blankInProperty, some (String.singleton c), k, 0⟩
      | .missing => .error ⟨.propertyNotClosed, some Terminal.endName, 0, 0⟩
  | _ => .error ⟨.propertyNotOpened, some (describeHead cs), 0, 0⟩

/-! ## §3  Item lists and metadata -/

/-- A lexeme that starts with `@`, of which `cs` is the rest. -/
def readItems (mode : Mode) (cs : List Char) : Except Fault Lexeme :=
  if mode = .propertiesOnly then .error ⟨.itemsNotAllowed, none, 0, 0⟩
  else
    match cs with
    | '(' :: body =>
        match Reference.closing? true false 0 0 body with
        | some k => .ok (referenceUpTo .items k body)
        | none =>
            if body.count '\'' % 2 = 1 then
              .error ⟨.itemsQuoteNotClosed, some Terminal.endName, 0, 0⟩
            else .error ⟨.itemsNotClosed, some Terminal.endName, 0, 0⟩
    | _ => .error ⟨.itemsNotOpened, some (describeHead cs), 0, 0⟩

/-- A lexeme that starts with `%`, of which `cs` is the rest. -/
def readMetadata (mode : Mode) (cs : List Char) : Except Fault Lexeme :=
  match cs with
  | '(' :: body =>
      if mode = .propertiesOnly then .error ⟨.metadataNotAllowed, none, 0, 0⟩
      else
        match cutAt? ')' body with
        | some (inside, _) => .ok (reference ⟨.metadata, String.ofList inside⟩)
        | none => .error ⟨.metadataNotClosed, some Terminal.endName, 0, 0⟩
  | _ => .error ⟨.unexpectedCharacter, some "%", 0, 0⟩

/-! ## §4  Quoted text -/

/-- Where in a quoted text a character stands: in the text itself, in an item list inside
it, or in quotes inside such a list. -/
inductive Zone where
  | text
  | list
  | listQuote
  deriving DecidableEq, Repr

/-- Finds the quote that ends a quoted text; `k` characters of it have been passed. -/
def quoteEnd (mode : Mode) (zone : Zone) (k : Nat) : List Char → Except Fault Nat
  | [] => .error ⟨.stringNotClosed, none, 0, 0⟩
  | c :: cs =>
      match zone with
      | .text =>
          if c = '\'' then .ok k
          else if c = '@' ∧ cs.head? = some '(' then
            if mode = .propertiesOnly then .error ⟨.itemsNotAllowed, none, k + 1, 0⟩
            else quoteEnd mode .list (k + 1) cs
          else if c = '%' ∧ cs.head? = some '(' ∧ mode = .propertiesOnly then
            .error ⟨.metadataNotAllowed, none, k + 1, 0⟩
          else quoteEnd mode .text (k + 1) cs
      | .list =>
          if c = ')' then quoteEnd mode .text (k + 1) cs
          else if c = '\'' then quoteEnd mode .listQuote (k + 1) cs
          else quoteEnd mode .list (k + 1) cs
      | .listQuote =>
          if c = '\'' then quoteEnd mode .list (k + 1) cs
          else quoteEnd mode .listQuote (k + 1) cs

/-- A lexeme that starts with a quote, of which `cs` is the rest. -/
def readQuoted (mode : Mode) (cs : List Char) : Except Fault Lexeme :=
  (quoteEnd mode .text 0 cs).map fun k => quoted (String.ofList (cs.take k))

/-! ## §5  Numerals -/

def startsNumeral (c : Char) : Bool :=
  c.isDigit || c == '+' || c == '-' || c == '.'

/-- Whether a text starts with a digit. -/
def digitFollows : List Char → Bool
  | [] => false
  | c :: _ => c.isDigit

/-- The further parts of a dotted version: digits, and points that stand before one. -/
def furtherParts (cs : List Char) : List Char :=
  cs.take (runLength (fun c after => c.isDigit || (c == '.' && digitFollows after)) 0 cs)

/-- The digits of a hexadecimal numeral, with what stands before them. -/
def hexNumeral (x : Char) (cs : List Char) : Except Fault (List Char) :=
  let digits := cs.takeWhile isHexDigit
  if digits.isEmpty then .error ⟨.unexpectedCharacter, some (describeHead cs), 2, 2⟩
  else .ok ('0' :: x :: digits)

/-- The sign a numeral starts with, if there is one. -/
def signOf : List Char → List Char
  | '+' :: _ => ['+']
  | '-' :: _ => ['-']
  | _ => []

/-- The point a text starts with, if there is one. -/
def pointOf : List Char → List Char
  | '.' :: _ => ['.']
  | _ => []

/-- A sign perhaps, digits, a point and more digits perhaps, and further parts. At least one digit
stands before the second point. -/
def decimalNumeral (cs : List Char) : Except Fault (List Char) :=
  let sign := signOf cs
  let whole := (cs.drop sign.length).takeWhile Char.isDigit
  let atPoint := (cs.drop sign.length).dropWhile Char.isDigit
  let point := pointOf atPoint
  let fraction := (atPoint.drop point.length).takeWhile Char.isDigit
  let beyond := (atPoint.drop point.length).dropWhile Char.isDigit
  if whole.isEmpty && fraction.isEmpty then
    .error ⟨.unexpectedCharacter, some (describeHead cs), 0, sign.length + point.length⟩
  else .ok (sign ++ whole ++ point ++ fraction ++ furtherParts beyond)

/-- The characters of a numeral, whatever follows them. A zero and an x make it hexadecimal if
there is anything behind them. -/
def numeralChars (cs : List Char) : Except Fault (List Char) :=
  match cs with
  | '0' :: x :: c :: more =>
      if x = 'x' ∨ x = 'X' then hexNumeral x (c :: more) else decimalNumeral cs
  | _ => decimalNumeral cs

/-- What may not stand right after a numeral. -/
def clashesWithNumeral (c : Char) : Bool :=
  isAlphanumeric c || c == '_' || c == '.'

/-- A lexeme that starts with a digit, a sign or a point. -/
def readNumeral (cs : List Char) : Except Fault Lexeme :=
  (numeralChars cs).bind fun chars =>
    match cs.drop chars.length with
    | [] => .ok (numeral (String.ofList chars))
    | c :: _ =>
        if clashesWithNumeral c then
          .error ⟨.unexpectedCharacter, some (String.singleton c), chars.length, chars.length⟩
        else .ok (numeral (String.ofList chars))

/-! ## §6  Words -/

/-- The connective that a word is, in any ASCII case. -/
def connectiveOf? (chars : List Char) : Option Connective :=
  let small := chars.map Char.toLower
  if small = ['a', 'n', 'd'] then some .and
  else if small = ['o', 'r'] then some .or
  else none

/-- A lexeme that starts with a letter or an underscore. -/
def readWord (cs : List Char) : Lexeme :=
  let chars := cs.takeWhile isWordChar
  match connectiveOf? chars with
  | some op => connective op
  | none =>
      if (trimStart (cs.dropWhile isWordChar)).head? = some '(' then
        functionName (String.ofList chars)
      else word (String.ofList chars)

/-! ## §7  All lexemes -/

/-- One of two comparisons or lexemes, depending on whether an equals sign follows. -/
def withEquals (cs : List Char) (long short : Lexeme) : Except Fault Lexeme :=
  .ok (if cs.head? = some '=' then long else short)

/-- The lexeme that a text starts with, whose first character is `c`. -/
def readLexeme (mode : Mode) (c : Char) (cs : List Char) : Except Fault Lexeme :=
  if c = ',' then .ok comma
  else if c = '(' then .ok leftParen
  else if c = ')' then .ok rightParen
  else if c = '$' then readProperty cs
  else if c = '@' then readItems mode cs
  else if c = '%' then readMetadata mode cs
  else if c = '\'' then readQuoted mode cs
  else if c = '!' then withEquals cs (comparison .notEqual) not
  else if c = '<' then withEquals cs (comparison .lessOrEqual) (comparison .less)
  else if c = '>' then withEquals cs (comparison .greaterOrEqual) (comparison .greater)
  else if c = '=' then
    if cs.head? = some '=' then .ok (comparison .equal)
    else .error ⟨.loneEquals, some (describeHead cs), 1, 0⟩
  else if startsNumeral c then readNumeral (c :: cs)
  else if startsWord c then .ok (readWord (c :: cs))
  else .error ⟨.unexpectedCharacter, some (String.singleton c), 0, 0⟩

end Lexeme

end BuildCondition
