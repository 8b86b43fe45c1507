import BuildCondition.Operator
import BuildCondition.Reference

/-!
# Lexemes and tokens

A lexeme is one of the pieces a condition is made of. It is written in one way only, up
to the case of `and` and `or`, so that its source text and its width follow from it. A
token is a lexeme with its place. What a parser meets is a token or the end of the input.
-/

namespace BuildCondition

/-! ## §1  Lexemes -/

/-- A piece of a condition. -/
inductive Lexeme where
  /-- a number or dotted version without quotes -/
  | numeral (text : String)
  /-- a bare word -/
  | word (text : String)
  /-- a text between quotes, which are not part of it -/
  | quoted (text : String)
  | reference (r : Reference)
  /-- a bare word with a parenthesis after it -/
  | functionName (name : String)
  | connective (op : Connective)
  | not
  | comparison (op : Comparison)
  | leftParen
  | rightParen
  | comma
  deriving DecidableEq, Repr

namespace Lexeme

/-- The name of the kind of lexeme, for listings. -/
def kind : Lexeme → String
  | numeral _ => "Numeric"
  | word _ => "String"
  | quoted _ => "String"
  | reference r =>
      match r.sigil with
      | .property => "Property"
      | .items => "ItemList"
      | .metadata => "ItemMetadata"
  | functionName _ => "Function"
  | connective .or => "Or"
  | connective .and => "And"
  | not => "Not"
  | comparison .equal => "EqualTo"
  | comparison .notEqual => "NotEqualTo"
  | comparison .less => "LessThan"
  | comparison .lessOrEqual => "LessThanOrEqualTo"
  | comparison .greater => "GreaterThan"
  | comparison .greaterOrEqual => "GreaterThanOrEqualTo"
  | leftParen => "LeftParen"
  | rightParen => "RightParen"
  | comma => "Comma"

/-- What a lexeme says; connectives in lower case, quoted text without its quotes. -/
def text : Lexeme → String
  | numeral s => s
  | word s => s
  | quoted s => s
  | reference r => r.text
  | functionName s => s
  | connective op => op.text
  | not => "!"
  | comparison op => op.text
  | leftParen => "("
  | rightParen => ")"
  | comma => ","

def isQuoted : Lexeme → Bool
  | quoted _ => true
  | _ => false

/-- A lexeme as it is written. -/
def source (l : Lexeme) : String :=
  if l.isQuoted then String.ofList ('\'' :: (l.text.toList ++ ['\''])) else l.text

/-- How many characters a lexeme takes. -/
def width (l : Lexeme) : Nat :=
  l.source.length

/-- Whether a text holds a percent sign or the beginning of a property or item list
reference, so that it means more than it says. -/
def hasReference : List Char → Bool
  | [] => false
  | c :: cs => c = '%' || ((c = '$' || c = '@') && cs.head? == some '(') || hasReference cs

/-- A quoted text that has to be filled in when it is evaluated. -/
def isTemplate : Lexeme → Bool
  | quoted s => hasReference s.toList
  | _ => false

end Lexeme

/-! ## §2  Tokens -/

/-- A lexeme and the number of characters before it. -/
structure Token where
  lexeme : Lexeme
  offset : Nat
  deriving DecidableEq, Repr

/-- What stands at some place of a condition: a token, or its end. -/
inductive Terminal where
  | token (t : Token)
  | endOfInput (offset : Nat)
  deriving DecidableEq, Repr

namespace Terminal

/-- The name of the end of the input in messages and listings. -/
def endName : String := "EndOfInput"

def kind : Terminal → String
  | token t => t.lexeme.kind
  | endOfInput _ => endName

def text : Terminal → String
  | token t => t.lexeme.text
  | endOfInput _ => ""

def offset : Terminal → Nat
  | token t => t.offset
  | endOfInput n => n

def isQuoted : Terminal → Bool
  | token t => t.lexeme.isQuoted
  | endOfInput _ => false

def isTemplate : Terminal → Bool
  | token t => t.lexeme.isTemplate
  | endOfInput _ => false

/-- How a message names what it did not expect. -/
def shown : Terminal → String
  | token t => t.lexeme.source
  | endOfInput _ => endName

/-- A line of a listing: the kind, the source, and the offset. -/
def listing (t : Terminal) : String :=
  t.kind ++ " " ++ t.shown ++ " @" ++ toString t.offset

end Terminal

end BuildCondition
