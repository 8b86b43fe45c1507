import BuildCondition.Asking
import BuildCondition.Bag
import BuildCondition.Binary64
import BuildCondition.Binary64.Decimal
import BuildCondition.CommandLine.Arguments
import BuildCondition.CommandLine.Files
import BuildCondition.CommandLine.Run
import BuildCondition.CommandLine.StateFile
import BuildCondition.Condition
import BuildCondition.Engine
import BuildCondition.Expr
import BuildCondition.Expr.Evaluation
import BuildCondition.Expr.Parser
import BuildCondition.Expr.Printer
import BuildCondition.Failure
import BuildCondition.Function
import BuildCondition.Json
import BuildCondition.Lexeme
import BuildCondition.Lexeme.Reader
import BuildCondition.Location
import BuildCondition.Main
import BuildCondition.Mode
import BuildCondition.Operand
import BuildCondition.Operator
import BuildCondition.Percent
import BuildCondition.Proofs.Answers
import BuildCondition.Proofs.Asking
import BuildCondition.Proofs.Composition
import BuildCondition.Proofs.Consultation
import BuildCondition.Proofs.Embedding
import BuildCondition.Proofs.Except
import BuildCondition.Proofs.Expr.Evaluation
import BuildCondition.Proofs.Expr.Failures
import BuildCondition.Proofs.Expr.Limit
import BuildCondition.Proofs.Expr.Lookahead
import BuildCondition.Proofs.Expr.RoundTrip
import BuildCondition.Proofs.Expr.Simulation
import BuildCondition.Proofs.Expr.Steps
import BuildCondition.Proofs.Expr.Truncation
import BuildCondition.Proofs.Grammar
import BuildCondition.Proofs.Grammar.Acceptance
import BuildCondition.Proofs.Grammar.Kinds
import BuildCondition.Proofs.Grammar.Leftmost
import BuildCondition.Proofs.Grammar.Parser
import BuildCondition.Proofs.Grammar.Viability
import BuildCondition.Proofs.Host
import BuildCondition.Proofs.Lexeme.Brackets
import BuildCondition.Proofs.Lexeme.Closing
import BuildCondition.Proofs.Lexeme.Marking
import BuildCondition.Proofs.Lexeme.Numeral
import BuildCondition.Proofs.Lexeme.Placed
import BuildCondition.Proofs.Lexeme.Places
import BuildCondition.Proofs.Lexeme.Spelling
import BuildCondition.Proofs.Mode
import BuildCondition.Proofs.Mode.Lexing
import BuildCondition.Proofs.Mode.Questions
import BuildCondition.Proofs.Percent
import BuildCondition.Proofs.Relocation
import BuildCondition.Proofs.Template
import BuildCondition.Proofs.Text.Cut
import BuildCondition.Proofs.Text.Utf8
import BuildCondition.Proofs.Token
import BuildCondition.Reference
import BuildCondition.Report
import BuildCondition.Settings
import BuildCondition.Template
import BuildCondition.Text.Blank
import BuildCondition.Text.Cut
import BuildCondition.Text.Digit
import BuildCondition.Text.Letter
import BuildCondition.Text.Lowercase
import BuildCondition.Text.Quoted
import BuildCondition.Text.Range
import BuildCondition.Text.Utf8
import BuildCondition.Text.Width
import BuildCondition.Token
import BuildCondition.Value
import BuildCondition.Version
import BuildCondition.Proofs.Quoting
import BuildCondition.Proofs.Grammar.Nesting
import BuildCondition.Proofs.Expr.Counter
import BuildCondition.Proofs.Expr.Cutoff
import BuildCondition.Proofs.NestingLimit
import BuildCondition.Proofs.Expr.Relocation
import BuildCondition.Proofs.Spacing
import BuildCondition.Proofs.Expr.Blame
import BuildCondition.Proofs.Lexeme.Faults
import BuildCondition.Proofs.Function
import BuildCondition.Proofs.Positions
import BuildCondition.Proofs.VersionFunctions
import BuildCondition.Proofs.Lexeme.Balance
import BuildCondition.Proofs.Substitution
import BuildCondition.Proofs.Tiling
import BuildCondition.Proofs.Scanner
import BuildCondition.Proofs.Text.Range
import BuildCondition.Proofs.Text.Blank
import BuildCondition.Proofs.Text.Lowercase
import BuildCondition.Proofs.Bag
import BuildCondition.Proofs.CommandLine.StateFile
import BuildCondition.Proofs.Bag.Metadata
import BuildCondition.Proofs.Operand
import BuildCondition.Proofs.DottedText
import BuildCondition.Proofs.Verbatim
import BuildCondition.Proofs.Order
import BuildCondition.Proofs.Expr.BooleanLaws
import BuildCondition.Proofs.Lexeme.Levels
import BuildCondition.Proofs.Lexeme.StrayBlanks
import BuildCondition.Proofs.Bag.Transform
import BuildCondition.Proofs.ItemLists
import BuildCondition.Proofs.Text.LetterCase
import BuildCondition.Proofs.LetterCase
import BuildCondition.Proofs.Grammar.Height
import BuildCondition.Proofs.Grammar.Marks
import BuildCondition.Proofs.Numeral
import BuildCondition.Proofs.Text.Digit
import BuildCondition.Proofs.Json
import BuildCondition.Proofs.Settings
import BuildCondition.Proofs.Registration
import BuildCondition.Proofs.CommandLine.Arguments
import BuildCondition.Proofs.CommandLine.Printing
import BuildCondition.Proofs.Template.ItemBody
import BuildCondition.Proofs.Version
import BuildCondition.Proofs.Report
import BuildCondition.Proofs.CommandLine.Layers
