import BuildCondition.Binary64.Decimal
import BuildCondition.Version

/-!
# Values

What the operands of a condition stand for: a text, a number, or a truth value. Every value has
a text; a text may also be read as a truth value, a number or a version, and nothing is ever
read as more than it says: only `true` and `false` (in any case) are truth values, and there are
no exponents in numbers.
-/

namespace BuildCondition

open BuildCondition.Text

/-- The value of an operand. -/
inductive Value where
  | text (s : String)
  | number (x : Binary64)
  | bool (b : Bool)
  deriving DecidableEq

namespace Value

/-! ## §1  Reading texts -/

/-- `true` or `false`, in any ASCII case, with blanks around. -/
def readBool? (cs : List Char) : Option Bool :=
  let word := (trim cs).map Char.toLower
  if word = ['t', 'r', 'u', 'e'] then some true
  else if word = ['f', 'a', 'l', 's', 'e'] then some false
  else none

/-- The digits after `0x` or `0X`. -/
def hexDigits? : List Char → Option (List Char)
  | '0' :: 'x' :: ds => some ds
  | '0' :: 'X' :: ds => some ds
  | _ => none

/-- A hexadecimal number has at least one digit and fits 64 bits. -/
def readHex? (ds : List Char) : Option Binary64 :=
  if !ds.isEmpty && ds.all isHexDigit && hexadecimal ds < wordLimit then
    some (Binary64.ofNat (hexadecimal ds))
  else none

/-- A sign in front, if there is one, is left out. -/
def withoutSign : List Char → List Char
  | '+' :: cs => cs
  | '-' :: cs => cs
  | cs => cs

/-- A decimal number: digits with at most one point, at least one digit, perhaps a sign. -/
def readDecimal? (cs : List Char) : Option Binary64 :=
  let parts := (cutAt? '.' (withoutSign cs)).getD (withoutSign cs, [])
  if parts.1.all Char.isDigit && parts.2.all Char.isDigit && !(parts.1 ++ parts.2).isEmpty then
    let magnitude :=
      Binary64.ofDecimal false (decimal (parts.1 ++ parts.2)) (-(parts.2.length : Int))
    some (if cs.head? = some '-' then magnitude.neg else magnitude)
  else none

/-- A number with blanks around it: `0x` and hexadecimal digits, or a decimal. -/
def readNumber? (cs : List Char) : Option Binary64 :=
  match hexDigits? (trim cs) with
  | some ds => readHex? ds
  | none => readDecimal? (trim cs)

/-! ## §2  Coercions -/

/-- The text of a value. -/
def asText : Value → String
  | text s => s
  | number x => x.text
  | bool b => if b then "true" else "false"

/-- The truth value of a value; numbers have none. -/
def asBool? : Value → Option Bool
  | text s => readBool? s.toList
  | number _ => none
  | bool b => some b

/-- The number of a value; truth values have none. -/
def asNumber? : Value → Option Binary64
  | text s => readNumber? s.toList
  | number x => some x
  | bool _ => none

/-- The version of a value: a number that is finite and not negative is one by its text. -/
def asVersion? : Value → Option Version
  | text s => Version.read? s.toList
  | number x => if x.isFinite && x.isNonnegative then Version.read? x.text.toList else none
  | bool _ => none

end Value

end BuildCondition
