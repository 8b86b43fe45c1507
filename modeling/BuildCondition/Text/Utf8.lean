/-!
# UTF-8

A text as octets, and octets as text. Octets are natural numbers below 256.

Writing is division by 64. Reading is a machine that takes one octet at a time and knows, inside
a character, the code read so far, how many continuation octets are owed, and in which range the
next one must lie (the range excludes overlong forms, surrogates, and codes past the last one).
Octets that no character is made of are read as U+FFFD, one for every longest beginning of a
character that is not completed, and one for every octet that cannot begin a character.
-/

namespace BuildCondition.Text

/-! ## §1  Writing -/

/-- The octets of a character. -/
def utf8 (c : Char) : List Nat :=
  let n := c.toNat
  if n < 0x80 then [n]
  else if n < 0x800 then [0xC0 + n / 64, 0x80 + n % 64]
  else if n < 0x10000 then [0xE0 + n / 4096, 0x80 + n / 64 % 64, 0x80 + n % 64]
  else [0xF0 + n / 262144, 0x80 + n / 4096 % 64, 0x80 + n / 64 % 64, 0x80 + n % 64]

/-! ## §2  Reading -/

/-- What stands for octets that are no character. -/
def replacement : Char := '\uFFFD'

/-- The inside of a character: the code so far, the continuation octets still owed, and
the range of the next one. -/
structure Owed where
  code : Nat
  count : Nat
  low : Nat
  high : Nat
  deriving DecidableEq, Repr

/-- The first octet of a character of several octets. -/
def owedAfter (b : Nat) : Option Owed :=
  if 0xC2 ≤ b ∧ b ≤ 0xDF then some ⟨b - 0xC0, 1, 0x80, 0xBF⟩
  else if b = 0xE0 then some ⟨0, 2, 0xA0, 0xBF⟩
  else if b = 0xED then some ⟨0xD, 2, 0x80, 0x9F⟩
  else if 0xE1 ≤ b ∧ b ≤ 0xEF then some ⟨b - 0xE0, 2, 0x80, 0xBF⟩
  else if b = 0xF0 then some ⟨0, 3, 0x90, 0xBF⟩
  else if 0xF1 ≤ b ∧ b ≤ 0xF3 then some ⟨b - 0xF0, 3, 0x80, 0xBF⟩
  else if b = 0xF4 then some ⟨4, 3, 0x80, 0x8F⟩
  else none

/-- An octet between characters: the text it gives, and what it leaves owed. -/
def beginChar (b : Nat) : List Char × Option Owed :=
  if b < 0x80 then ([Char.ofNat b], none)
  else
    match owedAfter b with
    | some o => ([], some o)
    | none => ([replacement], none)

/-- An octet inside a character. One that is out of range ends the character and is read
as the beginning of the next. -/
def continueChar (o : Owed) (b : Nat) : List Char × Option Owed :=
  if o.low ≤ b ∧ b ≤ o.high then
    let code := o.code * 64 + (b - 0x80)
    if o.count ≤ 1 then ([Char.ofNat code], none)
    else ([], some ⟨code, o.count - 1, 0x80, 0xBF⟩)
  else (replacement :: (beginChar b).1, (beginChar b).2)

/-- One octet. -/
def readOctet : Option Owed → Nat → List Char × Option Owed
  | none, b => beginChar b
  | some o, b => continueChar o b

/-- The text of some octets, reversed onto `done`, where `owed` is what earlier octets left. -/
def decodeOnto (done : List Char) (owed : Option Owed) : List Nat → List Char
  | [] => (if owed.isSome then replacement :: done else done).reverse
  | b :: bs =>
      let step := readOctet owed b
      decodeOnto (step.1.reverseAux done) step.2 bs

/-- The text that octets stand for. -/
def decodeUtf8 (octets : List Nat) : List Char :=
  decodeOnto [] none octets

end BuildCondition.Text
