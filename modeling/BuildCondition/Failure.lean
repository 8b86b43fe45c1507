import BuildCondition.Location

/-!
# Failures

Everything that can go wrong with a condition has one of nineteen causes. A failure is a cause,
what is known besides, and a position: characters of the condition are counted from one, and
position zero means that the failure has no place yet. The wording follows from these.
-/

namespace BuildCondition

/-! ## §1  Causes -/

/-- What went wrong. -/
inductive Cause where
  | loneEquals
  | propertyNotOpened
  | propertyNotClosed
  | blankInProperty
  | itemsNotOpened
  | itemsNotClosed
  | itemsQuoteNotClosed
  | metadataNotClosed
  | stringNotClosed
  | itemsNotAllowed
  | metadataNotAllowed
  | unexpectedCharacter
  | unexpectedToken
  | nestedTooDeeply
  | unknownFunction
  | wrongArgumentCount
  | invalidArgument
  | notComparable
  | notBoolean
  deriving DecidableEq, Repr

/-- When it shows: while lexemes are read, while they are put together, while the
condition is evaluated, or by running out of an allowance. -/
inductive Stage where
  | lexical
  | syntactic
  | evaluation
  | resource
  deriving DecidableEq, Repr

namespace Stage

def name : Stage → String
  | lexical => "Lexical"
  | syntactic => "Syntactic"
  | evaluation => "Evaluation"
  | resource => "Resource"

end Stage

namespace Cause

/-- Every cause, in the order of the stages they arise in. -/
def all : List Cause :=
  [loneEquals, propertyNotOpened, propertyNotClosed, blankInProperty, itemsNotOpened,
   itemsNotClosed, itemsQuoteNotClosed, metadataNotClosed, stringNotClosed, itemsNotAllowed,
   metadataNotAllowed, unexpectedCharacter, unexpectedToken, nestedTooDeeply,
   unknownFunction, wrongArgumentCount, invalidArgument, notComparable, notBoolean]

/-- The code by which callers tell failures apart. -/
def code : Cause → String
  | loneEquals => "IllFormedEqualsInCondition"
  | propertyNotOpened => "IllFormedPropertyOpenParenthesisInCondition"
  | propertyNotClosed => "IllFormedPropertyCloseParenthesisInCondition"
  | blankInProperty => "IllFormedPropertySpaceInCondition"
  | itemsNotOpened => "IllFormedItemListOpenParenthesisInCondition"
  | itemsNotClosed => "IllFormedItemListCloseParenthesisInCondition"
  | itemsQuoteNotClosed => "IllFormedItemListQuoteInCondition"
  | metadataNotClosed => "IllFormedItemMetadataCloseParenthesisInCondition"
  | stringNotClosed => "IllFormedQuotedStringInCondition"
  | itemsNotAllowed => "ItemListNotAllowedInThisConditional"
  | metadataNotAllowed => "ItemMetadataNotAllowedInThisConditional"
  | unexpectedCharacter => "UnexpectedCharacterInCondition"
  | unexpectedToken => "UnexpectedTokenInCondition"
  | nestedTooDeeply => "ConditionNestedTooDeeply"
  | unknownFunction => "UndefinedFunctionCall"
  | wrongArgumentCount => "IncorrectNumberOfFunctionArguments"
  | invalidArgument => "InvalidFunctionArgumentInCondition"
  | notComparable => "ComparisonOnNonNumericExpression"
  | notBoolean => "ExpectedBooleanInCondition"

/-- The cause with exactly this code. -/
def ofCode? (code : String) : Option Cause :=
  all.find? fun cause => cause.code == code

/-- One sentence on the cause, without its end. -/
def summary : Cause → String
  | loneEquals => "Expected \"==\" instead of a single \"=\""
  | propertyNotOpened => "Expected \"(\" after \"$\" to open a property reference"
  | propertyNotClosed => "Expected \")\" to close the property reference"
  | blankInProperty => "Unexpected whitespace inside the property reference"
  | itemsNotOpened => "Expected \"(\" after \"@\" to open an item list reference"
  | itemsNotClosed => "Expected \")\" to close the item list reference"
  | itemsQuoteNotClosed =>
      "Expected \"'\" to close the quoted text inside the item list reference"
  | metadataNotClosed => "Expected \")\" to close the item metadata reference"
  | stringNotClosed => "Expected \"'\" to close the quoted string"
  | itemsNotAllowed => "Item lists are not allowed in this condition"
  | metadataNotAllowed => "Item metadata references are not allowed in this condition"
  | unexpectedCharacter => "Unexpected character"
  | unexpectedToken => "Unexpected token"
  | nestedTooDeeply => "Condition is nested too deeply"
  | unknownFunction => "Unknown function"
  | wrongArgumentCount => "Incorrect number of arguments to function"
  | invalidArgument => "Invalid argument to function"
  | notComparable =>
      "A numeric comparison was attempted on a value that is neither a number nor a version"
  | notBoolean => "Expected a boolean value"

/-- The stage a cause belongs to. -/
def stage : Cause → Stage
  | unexpectedToken | itemsNotAllowed | metadataNotAllowed => .syntactic
  | nestedTooDeeply => .resource
  | unknownFunction | wrongArgumentCount | invalidArgument | notComparable | notBoolean =>
      .evaluation
  | _ => .lexical

end Cause

/-! ## §2  Failures -/

/-- What is known besides the cause. -/
inductive Detail where
  /-- nothing more -/
  | bare
  /-- the text that stands where something else should -/
  | found (text : String)
  /-- the nesting limit that was passed -/
  | beyond (limit : Nat)
  /-- a remark that does not speak of a position -/
  | about (remark : String)
  /-- a message of its own -/
  | worded (message : String)
  deriving DecidableEq, Repr

/-- A failure; `condition` and `place` are empty until somebody adds them. -/
structure Failure where
  cause : Cause
  detail : Detail
  position : Nat
  condition : String
  place : Location
  deriving DecidableEq

namespace Failure

/-- A failure that does not know its condition yet. -/
def ofCause (cause : Cause) (detail : Detail) (position : Nat) : Failure :=
  ⟨cause, detail, position, "", Location.unknown⟩

/-- A failure at a position. -/
def bareAt (cause : Cause) (position : Nat) : Failure :=
  ofCause cause .bare position

/-- A failure at a position where `text` was found. -/
def foundAt (cause : Cause) (position : Nat) (text : String) : Failure :=
  ofCause cause (.found text) position

/-- A failure without a position. -/
def unplaced (cause : Cause) (remark : String) : Failure :=
  ofCause cause (.about remark) 0

/-- Gives a position to a failure that has none. -/
def placedAt (f : Failure) (position : Nat) : Failure :=
  if f.position = 0 then { f with position := position } else f

/-- Adds the condition and the place where it was written. -/
def withSource (f : Failure) (condition : String) (place : Location) : Failure :=
  { f with condition := condition, place := place }

/-- The text found where something else should stand, if the failure is of that kind. -/
def found? (f : Failure) : Option String :=
  match f.detail with
  | .found text => some text
  | _ => none

def stage (f : Failure) : Stage :=
  f.cause.stage

/-- The summary of the cause with what else is known, as one sentence. -/
def message (f : Failure) : String :=
  let atPosition := f.cause.summary ++ " at position " ++ toString f.position
  match f.detail with
  | .bare => atPosition ++ "."
  | .found text => atPosition ++ ", found \"" ++ text ++ "\"."
  | .beyond limit => atPosition ++ ": more than " ++ toString limit ++ " levels of nesting."
  | .about remark => f.cause.summary ++ ": " ++ remark ++ "."
  | .worded message => message

/-- The message with the code, after the place if that is known. -/
def text (f : Failure) : String :=
  (if f.place.isKnown then f.place.text ++ ": " else "") ++
    "error " ++ f.cause.code ++ ": " ++ f.message

end Failure

end BuildCondition
