import BuildCondition.Lexeme.Reader

/-!
# Conditions as tokens

A condition is cut into tokens from left to right; blanks between them are skipped. There are
two ways to do so. `lex` cuts the whole text at once and tells how that ended. A `Scanner` hands
out one token at a time, and can be asked again after a failure: it stays where the failure is,
except that a numeral gives up what it has already taken.
-/

namespace BuildCondition

open BuildCondition.Text

/-! ## §1  The whole text -/

/-- The tokens of a condition, and its length or the failure that ended them. -/
structure Lexed where
  tokens : List Token
  ending : Except Failure Nat

/-- The tokens of what follows `position` characters, behind those in `done` (which runs
backwards). The first `covered` characters belong to the last of them. -/
def lexFrom (mode : Mode) (done : List Token) (position covered : Nat) : List Char → Lexed
  | [] => ⟨done.reverse, .ok position⟩
  | c :: cs =>
      match covered with
      | covered + 1 => lexFrom mode done (position + 1) covered cs
      | 0 =>
          if isBlank c then lexFrom mode done (position + 1) 0 cs
          else
            match Lexeme.readLexeme mode c cs with
            | .ok l => lexFrom mode (⟨l, position⟩ :: done) (position + 1) (l.width - 1) cs
            | .error fault => ⟨done.reverse, .error (fault.failure position)⟩

/-- The tokens of a condition. -/
def lex (mode : Mode) (cs : List Char) : Lexed :=
  lexFrom mode [] 0 0 cs

namespace Lexed

/-- What the text is made of, its end included, unless there is a failure in it. -/
def terminals (l : Lexed) : Except Failure (List Terminal) :=
  l.ending.map fun length => l.tokens.map .token ++ [.endOfInput length]

end Lexed

/-- Cuts a whole condition into tokens, of which the last is the end of the input. -/
def tokenize (mode : Mode) (condition : String) : Except Failure (List Terminal) :=
  (lex mode condition.toList).terminals

/-! ## §2  One token at a time -/

/-- A text that is being read: what is left of it, how much has been read, and the token
read last. -/
structure Scanner where
  mode : Mode
  rest : List Char
  position : Nat
  current : Terminal

namespace Scanner

/-- A scanner at the start of a condition. -/
def start (mode : Mode) (condition : String) : Scanner :=
  ⟨mode, condition.toList, 0, .endOfInput 0⟩

/-- Passes over some characters. -/
def skip (s : Scanner) (n : Nat) : Scanner :=
  { s with rest := s.rest.drop n, position := s.position + n }

/-- Passes over blanks. -/
def skipBlanks (s : Scanner) : Scanner :=
  s.skip (s.rest.takeWhile isBlank).length

/-- Passes over a lexeme, and from the name of a function on to its parenthesis. -/
def pass (s : Scanner) (l : Lexeme) : Scanner :=
  match l with
  | .functionName _ => (s.skip l.width).skipBlanks
  | _ => s.skip l.width

/-- Reads the next token, and tells whether there was one. -/
def advance (scanner : Scanner) : Scanner × Except Failure Bool :=
  let s := scanner.skipBlanks
  match s.rest with
  | [] => ({ s with current := .endOfInput s.position }, .ok false)
  | c :: cs =>
      match Lexeme.readLexeme s.mode c cs with
      | .ok l => ({ s.pass l with current := .token ⟨l, s.position⟩ }, .ok true)
      | .error fault => (s.skip fault.consumed, .error (fault.failure s.position))

end Scanner

end BuildCondition
