import Worksheet.Cell
import Worksheet.CellName
import Worksheet.Cells
import Worksheet.Decimal.Basic
import Worksheet.Decimal.Binary64
import Worksheet.Decimal.Numeral
import Worksheet.Decimal.Positional
import Worksheet.Decimal.Shortest
import Worksheet.Fault
import Worksheet.Formula.Basic
import Worksheet.Formula.Fault
import Worksheet.Formula.Lexing
import Worksheet.Formula.Machine
import Worksheet.Formula.Operator
import Worksheet.Formula.Shape
import Worksheet.Formula.Token
import Worksheet.Graph.Basic
import Worksheet.Graph.Order
import Worksheet.Number
import Worksheet.Pattern.Basic
import Worksheet.Pattern.CharSet
import Worksheet.Pattern.Class
import Worksheet.Pattern.Reader
import Worksheet.Proofs.Cells
import Worksheet.Proofs.Cells.Operations
import Worksheet.Proofs.Decimal.Binary64
import Worksheet.Proofs.Decimal.LetterCase
import Worksheet.Proofs.Decimal.Numeral
import Worksheet.Proofs.Decimal.Positional
import Worksheet.Proofs.Decimal.Rounding
import Worksheet.Proofs.Formula.Asking
import Worksheet.Proofs.Formula.Equality
import Worksheet.Proofs.Formula.Grammar
import Worksheet.Proofs.Formula.Inlining
import Worksheet.Proofs.Formula.LetterCase
import Worksheet.Proofs.Formula.Lexeme
import Worksheet.Proofs.Formula.Lexing
import Worksheet.Proofs.Formula.LongestMatch
import Worksheet.Proofs.Formula.Lookup
import Worksheet.Proofs.Formula.Printing
import Worksheet.Proofs.Formula.Renaming
import Worksheet.Proofs.Formula.Spacing
import Worksheet.Proofs.Formula.Stacks
import Worksheet.Proofs.Formula.Value
import Worksheet.Proofs.Graph.Countdown
import Worksheet.Proofs.Graph.Counters
import Worksheet.Proofs.Graph.Downstream
import Worksheet.Proofs.Graph.Edges
import Worksheet.Proofs.Graph.EvaluationOrder
import Worksheet.Proofs.Graph.LeastOrder
import Worksheet.Proofs.Graph.Operations
import Worksheet.Proofs.Graph.Redirect
import Worksheet.Proofs.Graph.Visiting
import Worksheet.Proofs.NameSet
import Worksheet.Proofs.Number
import Worksheet.Proofs.Outcome
import Worksheet.Proofs.Sheet.Agreement
import Worksheet.Proofs.Sheet.Config
import Worksheet.Proofs.Sheet.Consistent
import Worksheet.Proofs.Sheet.Entries
import Worksheet.Proofs.Sheet.Errors
import Worksheet.Proofs.Sheet.Frame
import Worksheet.Proofs.Sheet.LetterCase
import Worksheet.Proofs.Sheet.Loading
import Worksheet.Proofs.Sheet.Naming
import Worksheet.Proofs.Sheet.Overwriting
import Worksheet.Proofs.Sheet.Persistence
import Worksheet.Proofs.Sheet.Recomputation
import Worksheet.Proofs.Sheet.Refusal
import Worksheet.Proofs.Sheet.Report
import Worksheet.Proofs.Sheet.Rereading
import Worksheet.Proofs.Sheet.Run
import Worksheet.Proofs.Sheet.Stored
import Worksheet.Proofs.Sheet.Verdict
import Worksheet.Proofs.Sheet.Writing
import Worksheet.Proofs.Text.Ascii
import Worksheet.Proofs.Text.LetterCase
import Worksheet.Proofs.Update
import Worksheet.Sheet.Basic
import Worksheet.Sheet.Config
import Worksheet.Sheet.Edit
import Worksheet.Sheet.Event
import Worksheet.Text.Blank
import Worksheet.Text.Quoted
import Worksheet.Text.Unassigned
import Worksheet.Text.UpperCase
import Worksheet.Text.Visible
import Worksheet.Update
