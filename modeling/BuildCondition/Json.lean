import BuildCondition.Text.Digit

/-!
# JSON

What settings and states of the build are read from. The reader is strict: nothing may follow
the value, escapes must be complete, and half of a surrogate pair is no character. Of numbers
only the natural ones written without a sign, a point or an exponent keep their value; no other
number is ever asked for.
-/

namespace BuildCondition

open BuildCondition.Text

/-- A JSON value. Members of an object keep their order, and may be repeated. -/
inductive Json where
  | null
  | bool (b : Bool)
  | natural (n : Nat)
  | otherNumber
  | string (s : String)
  | array (elements : List Json)
  | object (members : List (String × Json))

namespace Json

/-! ## §1  Writing strings -/

/-- A character between the quotes of a string. -/
def writeChar (c : Char) : List Char :=
  if c = '"' then ['\\', '"']
  else if c = '\\' then ['\\', '\\']
  else if c = '\u0008' then ['\\', 'b']
  else if c = '\u000C' then ['\\', 'f']
  else if c = '\n' then ['\\', 'n']
  else if c = '\r' then ['\\', 'r']
  else if c = '\t' then ['\\', 't']
  else if c.toNat < 32 then
    ['\\', 'u', '0', '0', hexDigit (c.toNat / 16), hexDigit (c.toNat % 16)]
  else [c]

/-- A string with its quotes. -/
def writeString (s : String) : String :=
  String.ofList ('"' :: (s.toList.flatMap writeChar ++ ['"']))

/-! ## §2  Reading -/

/-- Takes what it needs from a text, or fails. -/
abbrev Read (α : Type) := List Char → Option (α × List Char)

/-- The four blanks of JSON. -/
def isSpace (c : Char) : Bool :=
  c == ' ' || c == '\t' || c == '\n' || c == '\r'

def skipSpace (cs : List Char) : List Char :=
  cs.dropWhile isSpace

/-- Four hexadecimal digits. -/
def hexFour? (a b c d : Char) : Option Nat := do
  let w ← hexValue? a
  let x ← hexValue? b
  let y ← hexValue? c
  let z ← hexValue? d
  some (((w * 16 + x) * 16 + y) * 16 + z)

/-- The character of an escape of one letter. -/
def letterEscape? (c : Char) : Option Char :=
  if c = '"' then some '"'
  else if c = '\\' then some '\\'
  else if c = '/' then some '/'
  else if c = 'b' then some '\u0008'
  else if c = 'f' then some '\u000C'
  else if c = 'n' then some '\n'
  else if c = 'r' then some '\r'
  else if c = 't' then some '\t'
  else none

/-- The character of a pair of surrogates. -/
def pair (high low : Nat) : Char :=
  Char.ofNat (0x10000 + (high - 0xD800) * 0x400 + (low - 0xDC00))

/-- The rest of a string behind its first quote; what is done is in `done`, which runs
backwards. -/
def readStringOnto (done : List Char) : Read String
  | [] => none
  | '"' :: cs => some (String.ofList done.reverse, cs)
  | '\\' :: 'u' :: a :: b :: c :: d :: '\\' :: 'u' :: e :: f :: g :: h :: cs =>
      match hexFour? a b c d with
      | none => none
      | some n =>
          if 0xD800 ≤ n ∧ n < 0xDC00 then
            match hexFour? e f g h with
            | none => none
            | some m =>
                if 0xDC00 ≤ m ∧ m < 0xE000 then readStringOnto (pair n m :: done) cs else none
          else if 0xDC00 ≤ n ∧ n < 0xE000 then none
          else readStringOnto (Char.ofNat n :: done) ('\\' :: 'u' :: e :: f :: g :: h :: cs)
  | '\\' :: 'u' :: a :: b :: c :: d :: cs =>
      match hexFour? a b c d with
      | none => none
      | some n =>
          if 0xD800 ≤ n ∧ n < 0xE000 then none else readStringOnto (Char.ofNat n :: done) cs
  | '\\' :: c :: cs =>
      match letterEscape? c with
      | none => none
      | some e => readStringOnto (e :: done) cs
  | c :: cs => if c.toNat < 32 then none else readStringOnto (c :: done) cs

/-- Digits, at least one. -/
def readDigits (cs : List Char) : Option (List Char × List Char) :=
  let ds := cs.takeWhile Char.isDigit
  if ds.isEmpty then none else some (ds, cs.dropWhile Char.isDigit)

/-- A whole number: zero, or digits that do not start with one. -/
def readWhole : Read Nat
  | '0' :: cs => some (0, cs)
  | cs => (readDigits cs).map fun (ds, rest) => (decimal ds, rest)

/-- A point and digits, if there is a point, and whether there was. -/
def readFraction : Read Bool
  | '.' :: cs => (readDigits cs).map fun (_, rest) => (true, rest)
  | cs => some (false, cs)

/-- An exponent without its letter. -/
def readSigned : List Char → Option (List Char)
  | '+' :: cs => (readDigits cs).map Prod.snd
  | '-' :: cs => (readDigits cs).map Prod.snd
  | cs => (readDigits cs).map Prod.snd

/-- An exponent, if there is one, and whether there was. -/
def readExponent : Read Bool
  | 'e' :: cs => (readSigned cs).map fun rest => (true, rest)
  | 'E' :: cs => (readSigned cs).map fun rest => (true, rest)
  | cs => some (false, cs)

/-- A number without its sign. -/
def readMagnitude : Read Json := fun cs => do
  let (n, cs) ← readWhole cs
  let (pointed, cs) ← readFraction cs
  let (scaled, cs) ← readExponent cs
  some (if pointed || scaled then otherNumber else natural n, cs)

/-- A number. -/
def readNumber : Read Json
  | '-' :: cs => (readMagnitude cs).map fun (_, rest) => (otherNumber, rest)
  | cs => readMagnitude cs

/-- The elements of an array behind its bracket, at most `n`; those in `done` run backwards. -/
def readElements (element : Read Json) (n : Nat) (done : List Json) : Read (List Json) := fun cs =>
  match n with
  | 0 => none
  | n + 1 =>
      match element (skipSpace cs) with
      | none => none
      | some (e, cs) =>
          match skipSpace cs with
          | ',' :: cs => readElements element n (e :: done) cs
          | ']' :: cs => some ((e :: done).reverse, cs)
          | _ => none

/-- A member of an object. -/
def readMember (element : Read Json) : Read (String × Json)
  | '"' :: cs => do
      let (key, cs) ← readStringOnto [] cs
      match skipSpace cs with
      | ':' :: cs => (element (skipSpace cs)).map fun (e, rest) => ((key, e), rest)
      | _ => none
  | _ => none

/-- The members of an object behind its brace, at most `n`; those in `done` run backwards. -/
def readMembers (element : Read Json) (n : Nat) (done : List (String × Json)) :
    Read (List (String × Json)) := fun cs =>
  match n with
  | 0 => none
  | n + 1 =>
      match readMember element (skipSpace cs) with
      | none => none
      | some (m, cs) =>
          match skipSpace cs with
          | ',' :: cs => readMembers element n (m :: done) cs
          | '\x7d' :: cs => some ((m :: done).reverse, cs)
          | _ => none

/-- A value that does not start with a blank. Arrays and objects in it may be nested `levels` deep
and have at most `size` entries each. -/
def readValue (size levels : Nat) : Read Json := fun cs =>
  match levels with
  | 0 => none
  | levels + 1 =>
      match cs with
      | 'n' :: 'u' :: 'l' :: 'l' :: cs => some (null, cs)
      | 't' :: 'r' :: 'u' :: 'e' :: cs => some (bool true, cs)
      | 'f' :: 'a' :: 'l' :: 's' :: 'e' :: cs => some (bool false, cs)
      | '"' :: cs => (readStringOnto [] cs).map fun (s, rest) => (string s, rest)
      | '[' :: cs =>
          match skipSpace cs with
          | ']' :: cs => some (array [], cs)
          | cs =>
              (readElements (readValue size levels) size [] cs).map fun (es, rest) =>
                (array es, rest)
      | '\x7b' :: cs =>
          match skipSpace cs with
          | '\x7d' :: cs => some (object [], cs)
          | cs =>
              (readMembers (readValue size levels) size [] cs).map fun (ms, rest) =>
                (object ms, rest)
      | cs => readNumber cs

/-- How deep arrays and objects may be nested. -/
def maxLevels : Nat := 128

/-- The value that a text is. -/
def read? (s : String) : Option Json :=
  let cs := skipSpace s.toList
  match readValue cs.length maxLevels cs with
  | some (value, rest) => if (skipSpace rest).isEmpty then some value else none
  | none => none

/-! ## §3  Values of a known shape -/

/-- A string. -/
def asString? : Json → Option String
  | string s => some s
  | _ => none

/-- A list of things that are all of one shape. -/
def asList? {α : Type} (element : Json → Option α) : Json → Option (List α)
  | array es => es.mapM element
  | _ => none

/-- Of the entries with one key, keeps the last. -/
def lastOfEach {α : Type} : List (String × α) → List (String × α)
  | [] => []
  | (key, a) :: entries =>
      if entries.any fun e => e.1 == key then lastOfEach entries
      else (key, a) :: lastOfEach entries

/-- Things of one shape under keys. A key that is repeated has its last meaning. -/
def asMap? {α : Type} (element : Json → Option α) : Json → Option (List (String × α))
  | object ms => (ms.mapM fun m => (element m.2).map fun a => (m.1, a)).map lastOfEach
  | _ => none

/-- The fields of a record, in the order of their names. A record is an object with some of
these names, none of them twice, or an array of the first few fields. -/
def asRecord? (names : List String) : Json → Option (List (Option Json))
  | object ms =>
      if ms.all (fun m => names.contains m.1) &&
          names.all (fun name => ms.countP (fun m => m.1 == name) ≤ 1) then
        some (names.map fun name => ms.lookup name)
      else none
  | array es =>
      if es.length ≤ names.length then
        some (es.map some ++ List.replicate (names.length - es.length) none)
      else none
  | _ => none

end Json

end BuildCondition
