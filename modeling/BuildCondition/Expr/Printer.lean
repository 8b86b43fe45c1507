import BuildCondition.Expr

/-!
# Printing expressions

An expression is printed with parentheses around everything that has operands, as in
`(($(a) == 'b') and (!true))`. Texts are printed in quotes even where there were none.
-/

namespace BuildCondition.Expr

/-- A text between quotes. -/
def inQuotes (s : String) : String :=
  "'" ++ s ++ "'"

mutual

/-- The printed form of an expression. -/
def render : Expr → String
  | literal _ (.text _) s => inQuotes s
  | literal _ _ s => s
  | template _ s => inQuotes s
  | reference _ r => r.text
  | call _ name arguments => name ++ "(" ++ renderArguments arguments ++ ")"
  | not _ operand => "(!" ++ render operand ++ ")"
  | comparison op left right => "(" ++ render left ++ " " ++ op.text ++ " " ++ render right ++ ")"
  | chain op first others =>
      renderOthers (" " ++ op.text ++ " ") ("(" ++ render first) others ++ ")"

/-- The arguments of a call, with commas between them. -/
def renderArguments : List Expr → String
  | [] => ""
  | first :: others => renderOthers ", " (render first) others

/-- Puts the printed forms of `others` behind `shown`, a separator before each. -/
def renderOthers (separator shown : String) : List Expr → String
  | [] => shown
  | e :: others => renderOthers separator (shown ++ separator ++ render e) others

end

end BuildCondition.Expr
