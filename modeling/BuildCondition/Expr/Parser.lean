import BuildCondition.Expr
import BuildCondition.Token

/-!
# Putting conditions together

The grammar, loosest binding first:

    expr       -> conjunction ("or" conjunction)*
    conjunction -> operand ("and" operand)*
    operand    -> "!" operand | equality
    equality   -> relation (("==" | "!=") relation)?
    relation   -> primary (("<" | "<=" | ">" | ">=") primary)?
    primary    -> "(" expr ")" | FUNCTION "(" (expr ("," expr)*)? ")" | STRING | NUMERAL | REFERENCE

Every `expr` and every operand of `!` is a level of nesting, and the levels are limited. The
levels that are left are what the recursion runs on.

A parser takes the tokens that are left. When it runs out of tokens it learns how they ended:
with the end of the condition, or with a lexeme that could not be read. Hence a fault in a
lexeme is reported when the parser gets there and not before, and the failure that is reported
is the first one in the condition.
-/

namespace BuildCondition.Expr

/-- Takes what it needs from the tokens that are left. -/
abbrev Parse (α : Type) := List Token → Except Failure (α × List Token)

/-- What a parser knows besides the tokens: how many levels may be nested, how the tokens
end, and how many there are. -/
structure Surroundings where
  limit : Nat
  ending : Except Failure Nat
  count : Nat

namespace Surroundings

/-! ## §1  Failing -/

/-- What stands where the parser is. -/
def here (s : Surroundings) : List Token → Except Failure Terminal
  | [] => s.ending.map .endOfInput
  | t :: _ => .ok (.token t)

/-- What stands here cannot go on the condition. -/
def unexpected {α : Type} (s : Surroundings) (ts : List Token) : Except Failure α :=
  (s.here ts).bind fun t =>
    .error (Failure.foundAt .unexpectedToken (t.offset + 1) t.shown)

/-- What stands here would be nested too deeply. -/
def tooDeep {α : Type} (s : Surroundings) (ts : List Token) : Except Failure α :=
  (s.here ts).bind fun t =>
    .error (Failure.ofCause .nestedTooDeeply (.beyond s.limit) (t.offset + 1))

/-- Passes over one lexeme, which has to be there. -/
def expect (s : Surroundings) (l : Lexeme) : List Token → Except Failure (List Token)
  | [] => s.unexpected []
  | t :: ts => if t.lexeme = l then .ok ts else s.unexpected (t :: ts)

/-! ## §2  Lists -/

/-- The items of a list behind the first, at most `n`, each with a separator before it. Those in
`done` have been read and run backwards. -/
def furtherItems (separator : Lexeme) (item : Parse Expr) (n : Nat) (done : List Expr) :
    Parse (List Expr) := fun ts =>
  match n with
  | 0 => .ok (done.reverse, ts)
  | n + 1 =>
      match ts with
      | [] => .ok (done.reverse, [])
      | t :: more =>
          if t.lexeme = separator then
            match item more with
            | .error f => .error f
            | .ok (e, rest) => furtherItems separator item n (e :: done) rest
          else .ok (done.reverse, t :: more)

/-- One item, or several with a separator between them: the first and the others. -/
def items (s : Surroundings) (separator : Lexeme) (item : Parse Expr) :
    Parse (Expr × List Expr) := fun ts =>
  (item ts).bind fun (first, rest) =>
    (furtherItems separator item s.count [] rest).map fun (others, rest) => ((first, others), rest)

/-! ## §3  Primaries -/

/-- The arguments of a call and the parenthesis behind them. -/
def arguments (s : Surroundings) (inside : Parse Expr) : Parse (List Expr) := fun ts =>
  match ts with
  | ⟨.rightParen, _⟩ :: more => .ok ([], more)
  | _ =>
      (s.items .comma inside ts).bind fun ((first, others), rest) =>
        (s.expect .rightParen rest).map fun rest => (first :: others, rest)

/-- A group, a call, or an operand of one lexeme. -/
def primary (s : Surroundings) (inside : Parse Expr) : Parse Expr
  | [] => s.unexpected []
  | t :: ts =>
      match t.lexeme with
      | .leftParen =>
          (inside ts).bind fun (e, rest) =>
            (s.expect .rightParen rest).map fun rest => (e, rest)
      | .functionName name =>
          (s.expect .leftParen ts).bind fun ts =>
            (s.arguments inside ts).map fun (es, rest) => (call t.offset name es, rest)
      | .word text => .ok (ofWord t.offset text, ts)
      | .quoted text => .ok (ofQuoted t.offset text, ts)
      | .numeral text => .ok (ofNumeral t.offset text, ts)
      | .reference r => .ok (reference t.offset r, ts)
      | _ => s.unexpected (t :: ts)

/-! ## §4  Operators -/

/-- One operand, or two with a comparison between them that is accepted. -/
def compared (accepted : Comparison → Bool) (operand : Parse Expr) : Parse Expr := fun ts =>
  (operand ts).bind fun (left, rest) =>
    match rest with
    | ⟨.comparison op, _⟩ :: more =>
        if accepted op then
          (operand more).map fun (right, rest) => (comparison op left right, rest)
        else .ok (left, rest)
    | _ => .ok (left, rest)

/-- The grammar's `equality`. -/
def equality (s : Surroundings) (inside : Parse Expr) : Parse Expr :=
  compared Comparison.isEquality (compared (fun op => !op.isEquality) (s.primary inside))

/-- One operand, or several with a connective between them. -/
def chained (s : Surroundings) (op : Connective) (operand : Parse Expr) : Parse Expr := fun ts =>
  (s.items (.connective op) operand ts).map fun ((first, others), rest) =>
    (joined op first others, rest)

/-- The grammar's `expr` without the level that it is. -/
def alternatives (s : Surroundings) (operand : Parse Expr) : Parse Expr :=
  s.chained .or (s.chained .and operand)

/-- The grammar's `operand`, of which the negated ones and those inside parentheses are given. -/
def operandWith (s : Surroundings) (negated inside : Parse Expr) : Parse Expr
  | ⟨.not, offset⟩ :: ts => (negated ts).map fun (e, rest) => (not offset e, rest)
  | ts => s.equality inside ts

/-! ## §5  Levels -/

/-- The grammar's `operand` with so many levels left. -/
def operand (s : Surroundings) (levels : Nat) : Parse Expr := fun ts =>
  match levels with
  | 0 => s.operandWith s.tooDeep s.tooDeep ts
  | levels + 1 => s.operandWith (operand s levels) (s.alternatives (operand s levels)) ts

/-- The grammar's `expr` with so many levels left, itself included. -/
def expr (s : Surroundings) (levels : Nat) : Parse Expr :=
  match levels with
  | 0 => s.tooDeep
  | levels + 1 => s.alternatives (s.operand levels)

/-- All tokens have been used up. -/
def finish (s : Surroundings) (result : Expr × List Token) : Except Failure Expr :=
  match result.2 with
  | [] => s.ending.map fun _ => result.1
  | t :: ts => s.unexpected (t :: ts)

end Surroundings

/-! ## §6  Whole conditions -/

/-- How deep expressions may be nested if nothing else is said. -/
def defaultLimit : Nat := 50

/-- The expression of all tokens of a condition. -/
def ofLexed (limit : Nat) (l : Lexed) : Except Failure Expr :=
  let s : Surroundings := ⟨limit, l.ending, l.tokens.length⟩
  (s.expr limit l.tokens).bind s.finish

/-- The expression that a condition is. -/
def parse (mode : Mode) (limit : Nat) (condition : String) : Except Failure Expr :=
  ofLexed limit (lex mode condition.toList)

end BuildCondition.Expr
