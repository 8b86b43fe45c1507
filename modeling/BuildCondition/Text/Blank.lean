import BuildCondition.Text.Range

/-!
# Blanks

What separates lexemes and is trimmed from names: the characters with the White_Space
property.
-/

namespace BuildCondition.Text

def blankRanges : Ranges := [
   (0x9, 0xD), (0x20, 0x20), (0x85, 0x85), (0xA0, 0xA0), (0x1680, 0x1680), (0x2000, 0x200A),
   (0x2028, 0x2029), (0x202F, 0x202F), (0x205F, 0x205F), (0x3000, 0x3000)]

/-- A character with the White_Space property. -/
def isBlank (c : Char) : Bool :=
  inRanges blankRanges c

/-- Leaves out the blanks a text starts with. -/
def trimStart (cs : List Char) : List Char :=
  cs.dropWhile isBlank

/-- Leaves out the blanks a text ends with. -/
def trimEnd (cs : List Char) : List Char :=
  (cs.reverse.dropWhile isBlank).reverse

/-- Leaves out the blanks on both sides. -/
def trim (cs : List Char) : List Char :=
  trimEnd (trimStart cs)

end BuildCondition.Text
