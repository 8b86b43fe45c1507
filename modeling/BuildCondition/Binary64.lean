/-!
# Double precision numbers

The numbers of a condition are binary floating point numbers of double precision,
described exactly. A finite one is a whole number of *units* of 2^-1074, with a sign: a
significand of at most 53 bits, shifted left by at most 2045 places. Everything is done with natural
numbers: reading a decimal rounds to the nearest representable number (a tie goes to the even
significand, and what is too large becomes infinite), and comparing compares units.
-/

namespace BuildCondition

/-! ## §1  The numbers -/

/-- The unit counts that a double can hold. -/
def Representable (units : Nat) : Prop :=
  ∃ significand shift,
    significand < Nat.pow 2 53 ∧ shift ≤ 2045 ∧ units = significand * Nat.pow 2 shift

/-- A double. -/
inductive Binary64 where
  | nan
  | infinity (negative : Bool)
  | finite (negative : Bool) (units : Nat) (fits : Representable units)
  deriving DecidableEq

namespace Binary64

/-- The negative of a number. -/
def neg : Binary64 → Binary64
  | nan => nan
  | infinity s => infinity !s
  | finite s u h => finite (!s) u h

/-- The number counted in units, infinities beyond all finite ones. -/
def scaled? : Binary64 → Option Int
  | nan => none
  | infinity s => some (if s then -(Nat.pow 2 2098 : Int) else Nat.pow 2 2098)
  | finite s u _ => some (if s then -(u : Int) else u)

/-- The order of two numbers; there is none when one of them is not a number. The two
zeros are equal. -/
def compare? (x y : Binary64) : Option Ordering :=
  match x.scaled?, y.scaled? with
  | some a, some b => some (compare a b)
  | _, _ => none

def isFinite : Binary64 → Bool
  | finite .. => true
  | _ => false

/-- Whether the number is zero (of either sign) or above. -/
def isNonnegative (x : Binary64) : Bool :=
  match x.scaled? with
  | some a => decide (0 ≤ a)
  | none => false

/-! ## §2  Rounding -/

/-- The whole number nearest to `num / den`, the even one of two that are equally near. -/
def roundHalfEven (num den : Nat) : Nat :=
  let q := num / den
  let r := num % den
  if 2 * r < den ∨ (2 * r = den ∧ q % 2 = 0) then q else q + 1

/-- The double nearest to `num / den`. -/
def ofRatio (negative : Bool) (num den : Nat) : Binary64 :=
  let units := num * Nat.pow 2 1074
  let shift := (units / den).log2 - 52
  let significand := roundHalfEven units (den * Nat.pow 2 shift)
  if h : significand < Nat.pow 2 53 ∧ shift ≤ 2045 then
    finite negative (significand * Nat.pow 2 shift) ⟨significand, shift, h.1, h.2, rfl⟩
  else if h : shift + 1 ≤ 2045 then
    finite negative (Nat.pow 2 52 * Nat.pow 2 (shift + 1))
      ⟨Nat.pow 2 52, shift + 1, by decide, h, rfl⟩
  else infinity negative

/-- The double nearest to a natural number. -/
def ofNat (n : Nat) : Binary64 :=
  ofRatio false n 1

/-- The double nearest to `digits * 10 ^ exponent`. -/
def ofDecimal (negative : Bool) (digits : Nat) (exponent : Int) : Binary64 :=
  if 0 ≤ exponent then ofRatio negative (digits * Nat.pow 10 exponent.toNat) 1
  else ofRatio negative digits (Nat.pow 10 (-exponent).toNat)

end Binary64

end BuildCondition
