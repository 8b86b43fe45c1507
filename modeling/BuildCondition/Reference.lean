/-!
# References

A reference names something in the state of the build: a property `$(Name)`, an item list
`@(Type)` with a transform and a separator perhaps, or item metadata `%(Item.Name)`.
-/

namespace BuildCondition

/-- What a reference refers to. -/
inductive Sigil where
  | property
  | items
  | metadata
  deriving DecidableEq, Repr

namespace Sigil

/-- The character that stands before the parenthesis. -/
def char : Sigil → Char
  | property => '$'
  | items => '@'
  | metadata => '%'

/-- The sigil of a character. -/
def ofChar? (c : Char) : Option Sigil :=
  if c = '$' then some property
  else if c = '@' then some items
  else if c = '%' then some metadata
  else none

end Sigil

/-- A reference; `body` is what stands between the parentheses. -/
structure Reference where
  sigil : Sigil
  body : String
  deriving DecidableEq, Repr

namespace Reference

/-- A reference as it is written. -/
def text (r : Reference) : String :=
  String.ofList (r.sigil.char :: '(' :: (r.body.toList ++ [')']))

/-- How many characters stand before the parenthesis that closes the one before `cs`.
Parentheses inside quotes do not count if `quotes` is set. The count starts at `k`, `depth`
parentheses are open besides, and `inQuote` tells whether a quote is open. -/
def closing? (quotes inQuote : Bool) (depth k : Nat) : List Char → Option Nat
  | [] => none
  | c :: cs =>
      if quotes ∧ c = '\'' then closing? quotes (!inQuote) depth (k + 1) cs
      else if c = '(' ∧ !inQuote then closing? quotes inQuote (depth + 1) (k + 1) cs
      else if c = ')' ∧ !inQuote then
        match depth with
        | 0 => some k
        | d + 1 => closing? quotes inQuote d (k + 1) cs
      else closing? quotes inQuote depth (k + 1) cs

end Reference

end BuildCondition
