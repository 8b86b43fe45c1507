import BuildCondition.Binary64
import BuildCondition.Text.Cut
import BuildCondition.Text.Digit

/-!
# Decimals

Doubles are written with the fewest digits that read back, and of the decimals with so few
digits the nearest one is taken (of two that are equally near, the larger). All digits are
written out: there is no exponent, and no point in a whole number.

The numbers of a condition have a narrow grammar of their own (`Value.readNumber?`); the
reader here is the inverse of the writer, and takes an exponent as well.
-/

namespace BuildCondition.Binary64

open BuildCondition.Text

/-! ## §1  The fewest digits -/

/-- The two neighbours of `num / den` on the whole numbers, the nearer first. -/
def neighbours (num den : Nat) : List Nat :=
  let q := num / den
  if 2 * (num % den) < den then [q, q + 1] else [q + 1, q]

/-- Whether `digits * 10 ^ exponent` reads as the number of so many units. -/
def readsBack (units digits : Nat) (exponent : Int) : Bool :=
  match ofDecimal false digits exponent with
  | finite _ u _ => u == units
  | _ => false

/-- The first neighbour of the number on the grid of `10 ^ exponent` that reads back. -/
def onGrid? (units : Nat) (exponent : Int) : Option Nat :=
  let candidates :=
    if 0 ≤ exponent then neighbours units (Nat.pow 2 1074 * Nat.pow 10 exponent.toNat)
    else neighbours (units * Nat.pow 10 (-exponent).toNat) (Nat.pow 2 1074)
  candidates.find? fun d => readsBack units d exponent

/-- Tries `tries` grids, each finer than the one before. -/
def shortestFrom (units : Nat) : Nat → Int → Nat × Int
  | 0, exponent => (units * Nat.pow 10 (-exponent).toNat / Nat.pow 2 1074, exponent)
  | tries + 1, exponent =>
      match onGrid? units exponent with
      | some d => (d, exponent)
      | none => shortestFrom units tries (exponent - 1)

/-- The least power of ten that is above the number. -/
def magnitude (units : Nat) : Int :=
  (Nat.toDigits 10 (units * Nat.pow 10 400 / Nat.pow 2 1074)).length - 400

/-- The digits and the exponent of the shortest decimal that reads back. -/
def shortest (units : Nat) : Nat × Int :=
  shortestFrom units 18 (magnitude units)

/-! ## §2  Writing -/

/-- The digits of `digits * 10 ^ exponent`, all written out. -/
def positional (digits : Nat) (exponent : Int) : List Char :=
  let ds := Nat.toDigits 10 digits
  if 0 ≤ exponent then ds ++ List.replicate exponent.toNat '0'
  else
    let places := (-exponent).toNat
    if places < ds.length then
      ds.take (ds.length - places) ++ '.' :: ds.drop (ds.length - places)
    else '0' :: '.' :: (List.replicate (places - ds.length) '0' ++ ds)

/-- The digits of a finite number without its sign. -/
def unsignedText (units : Nat) : List Char :=
  if units = 0 then ['0']
  else positional (shortest units).1 (shortest units).2

/-- The text of a number. -/
def text : Binary64 → String
  | nan => "NaN"
  | infinity s => if s then "-inf" else "inf"
  | finite s u _ =>
      String.ofList (if s then '-' :: unsignedText u else unsignedText u)

/-! ## §3  Reading back -/

/-- Keeps an exponent where it still matters: past these bounds a number of so many digits
overflows or vanishes all the same. -/
def clampExponent (length : Nat) (exponent : Int) : Int :=
  max (-(length + 400 : Int)) (min 400 exponent)

/-- The number of digits, a point among them at most once, times a power of ten. -/
def ofParts? (negative : Bool) (whole fraction : List Char) (exponent : Int) : Option Binary64 :=
  if whole.all Char.isDigit && fraction.all Char.isDigit && !(whole ++ fraction).isEmpty then
    some (ofDecimal negative (decimal (whole ++ fraction))
      (clampExponent (whole.length + fraction.length) (exponent - fraction.length)))
  else none

/-- A decimal exponent with an optional sign. -/
def readExponent? : List Char → Option Int
  | '-' :: ds => if ds.all Char.isDigit && !ds.isEmpty then some (-(decimal ds : Int)) else none
  | '+' :: ds => if ds.all Char.isDigit && !ds.isEmpty then some (decimal ds) else none
  | ds => if ds.all Char.isDigit && !ds.isEmpty then some (decimal ds) else none

/-- A decimal without its sign. -/
def readUnsigned? (negative : Bool) (cs : List Char) : Option Binary64 :=
  let mantissa := cs.takeWhile fun c => c != 'e' && c != 'E'
  let exponent? :=
    match cs.dropWhile fun c => c != 'e' && c != 'E' with
    | [] => some 0
    | _ :: ds => readExponent? ds
  let parts := (cutAt? '.' mantissa).getD (mantissa, [])
  exponent?.bind fun exponent => ofParts? negative parts.1 parts.2 exponent

/-- Reads what `text` writes, and decimals with an exponent. -/
def read? (s : String) : Option Binary64 :=
  if s = "NaN" then some nan
  else if s = "inf" then some (infinity false)
  else if s = "-inf" then some (infinity true)
  else
    match s.toList with
    | '-' :: cs => readUnsigned? true cs
    | cs => readUnsigned? false cs

end BuildCondition.Binary64
