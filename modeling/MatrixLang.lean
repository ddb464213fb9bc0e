import MatrixLang.Annotated.Check
import MatrixLang.Annotated.Grammar
import MatrixLang.Annotated.Syntax
import MatrixLang.Annotated.Table
import MatrixLang.Console
import MatrixLang.Grammar.Basic
import MatrixLang.Grammar.Run
import MatrixLang.Grammar.Table
import MatrixLang.Lexer.Digits
import MatrixLang.Lexer.Lexicons
import MatrixLang.Lexer.Pattern
import MatrixLang.Lexer.Scan
import MatrixLang.Lexer.Token
import MatrixLang.Main
import MatrixLang.Number.Binary64
import MatrixLang.Number.Shortest
import MatrixLang.Outline.Grammar
import MatrixLang.Outline.Syntax
import MatrixLang.Outline.Table
import MatrixLang.Proofs.Agreement
import MatrixLang.Proofs.Aliasing
import MatrixLang.Proofs.AnnotatedReports
import MatrixLang.Proofs.AnnotatedTotality
import MatrixLang.Proofs.Arithmetic
import MatrixLang.Proofs.Bindings
import MatrixLang.Proofs.Bounds
import MatrixLang.Proofs.Broadcast
import MatrixLang.Proofs.Compound
import MatrixLang.Proofs.Counters
import MatrixLang.Proofs.Derivations
import MatrixLang.Proofs.Acceptance
import MatrixLang.Proofs.Effects
import MatrixLang.Proofs.Frames
import MatrixLang.Proofs.Greedy
import MatrixLang.Proofs.Grouping
import MatrixLang.Proofs.Growth
import MatrixLang.Proofs.Holding
import MatrixLang.Proofs.Indexing
import MatrixLang.Proofs.Lexemes
import MatrixLang.Proofs.Longest
import MatrixLang.Proofs.Moves
import MatrixLang.Proofs.Pieces
import MatrixLang.Proofs.Precedence
import MatrixLang.Proofs.Placement
import MatrixLang.Proofs.Preorder
import MatrixLang.Proofs.Printing
import MatrixLang.Proofs.Progress
import MatrixLang.Proofs.Raised
import MatrixLang.Proofs.Reading
import MatrixLang.Proofs.Regex
import MatrixLang.Proofs.Reports
import MatrixLang.Proofs.Restoration
import MatrixLang.Proofs.Scopes
import MatrixLang.Proofs.SourceOrder
import MatrixLang.Proofs.Shapes
import MatrixLang.Proofs.Spacing
import MatrixLang.Proofs.Tokenization
import MatrixLang.Proofs.Totality
import MatrixLang.Proofs.Transfers
import MatrixLang.Proofs.Writes
import MatrixLang.Recognizer
import MatrixLang.Recognizer.Table
import MatrixLang.Script.Check
import MatrixLang.Script.Dump
import MatrixLang.Script.Eval
import MatrixLang.Script.Fault
import MatrixLang.Script.Grammar
import MatrixLang.Script.Layout
import MatrixLang.Script.Syntax
import MatrixLang.Script.Table
import MatrixLang.Script.Value
import MatrixLang.Text.Dump
import MatrixLang.Text.Layout
import MatrixLang.Text.Printable
import MatrixLang.Text.Quote
import MatrixLang.Tools.Bench
import MatrixLang.Tools.Checking
import MatrixLang.Tools.Lexing
import MatrixLang.Tools.Parsing
import MatrixLang.Tools.Reply
import MatrixLang.Tools.Request
import MatrixLang.Tools.Running
import MatrixLang.Tools.Scripts
