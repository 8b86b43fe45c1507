import BuildCondition.Text.Digit
import BuildCondition.Text.Utf8

/-!
# Percent escapes

Characters that mean something in a build file are written as a percent sign and the two
hexadecimal digits of their code. Escaping writes the nine special characters so, with small digits.
Unescaping goes through the text once, from left to right: every percent sign with two
hexadecimal digits after it becomes the octet they write, all else stays, and the octets
are then read as UTF-8.
-/

namespace BuildCondition.Percent

open BuildCondition.Text

/-- The characters that escaping replaces. -/
def special : List Char := ['%', '*', '?', '@', '$', '(', ')', ';', '\'']

def escapeChar (c : Char) : List Char :=
  if special.contains c then ['%', hexDigit (c.toNat / 16), hexDigit (c.toNat % 16)] else [c]

/-- Writes every special character as a percent escape. -/
def escape (cs : List Char) : List Char :=
  cs.flatMap escapeChar

/-- The octets of a text whose escapes are resolved, reversed onto `done`. -/
def octetsOnto (done : List Nat) : List Char → List Nat
  | [] => done.reverse
  | '%' :: a :: b :: cs =>
      match hexValue? a, hexValue? b with
      | some high, some low => octetsOnto ((16 * high + low) :: done) cs
      | _, _ => octetsOnto (37 :: done) (a :: b :: cs)
  | c :: cs => octetsOnto ((utf8 c).reverseAux done) cs

/-- The octets of a text whose escapes are resolved. -/
def octets (cs : List Char) : List Nat :=
  octetsOnto [] cs

/-- Resolves every escape, once. -/
def unescape (cs : List Char) : List Char :=
  decodeUtf8 (octets cs)

end BuildCondition.Percent
