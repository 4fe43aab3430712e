import Stencil.Bindings
import Stencil.Builtin
import Stencil.Decimal.Binary
import Stencil.Decimal.Layout
import Stencil.Decimal.Reading
import Stencil.Decimal.Remainder
import Stencil.Decimal.Shortest
import Stencil.Entries
import Stencil.Expr
import Stencil.Failure
import Stencil.Flaw
import Stencil.Format.Basic
import Stencil.Format.Template
import Stencil.Format.Value
import Stencil.FreeNames
import Stencil.Json.Basic
import Stencil.Json.Format
import Stencil.Json.Template
import Stencil.Json.TemplateError
import Stencil.Json.Value
import Stencil.Markers
import Stencil.Operator
import Stencil.Part
import Stencil.Program
import Stencil.Render.Eval
import Stencil.Render.Run
import Stencil.Render.State
import Stencil.Script.Bytes
import Stencil.Script.Cursor
import Stencil.Script.Error
import Stencil.Script.Expr
import Stencil.Script.Literal
import Stencil.Script.Stmt
import Stencil.Stmt
import Stencil.Template
import Stencil.TemplateError
import Stencil.Text.Alphanumeric
import Stencil.Text.Blank
import Stencil.Text.Case
import Stencil.Text.CaseTable
import Stencil.Text.CharSet
import Stencil.Text.Location
import Stencil.Text.Occurrence
import Stencil.Text.Printable
import Stencil.Text.Quoted
import Stencil.Text.Window
import Stencil.Token
import Stencil.Value.Access
import Stencil.Value.Arithmetic
import Stencil.Value.Basic
import Stencil.Value.Order
import Stencil.Value.Text
import Stencil.Proofs.Attempts
import Stencil.Proofs.Text.Pieces
import Stencil.Proofs.Decimal.Bits
import Stencil.Proofs.Decimal.Text
import Stencil.Proofs.Decimal.Nearest
import Stencil.Proofs.Decimal.RoundTrip
import Stencil.Proofs.Render.Outcome
import Stencil.Proofs.Render.Layers
import Stencil.Proofs.Render.Agreement
import Stencil.Proofs.Render.Lockstep
import Stencil.Proofs.Render.Evaluation
import Stencil.Proofs.Render.Straight
import Stencil.Proofs.Render.Simulation
import Stencil.Proofs.Render.Context
import Stencil.Proofs.Render.Silent
import Stencil.Proofs.Render.Frame
import Stencil.Proofs.Render.Sequence
import Stencil.Proofs.Source.Tokens
import Stencil.Proofs.Source.Parts
import Stencil.Proofs.Source.Fragments
import Stencil.Proofs.Source.Conditionals
import Stencil.Proofs.Source.Append
import Stencil.Proofs.Source.Recognition
import Stencil.Proofs.Source.Places
import Stencil.Proofs.Source.Cuts
import Stencil.Proofs.Source.Grammar
import Stencil.Proofs.Source.Arena
import Stencil.Proofs.Source.Written
import Stencil.Proofs.Script.Ends
import Stencil.Proofs.Script.Yields
import Stencil.Proofs.Script.Moves
import Stencil.Proofs.Script.Keeps
import Stencil.Proofs.Script.Every
import Stencil.Proofs.Script.Height
import Stencil.Proofs.Script.Legible
import Stencil.Proofs.Script.Results
import Stencil.Proofs.Script.Climb
import Stencil.Proofs.Script.Follows
import Stencil.Proofs.Script.Literals
import Stencil.Proofs.Script.Strings
import Stencil.Proofs.Script.Opening
import Stencil.Proofs.Script.Ladder
import Stencil.Proofs.Script.Expressions
import Stencil.Proofs.Script.Lines
import Stencil.Proofs.Script.Calls
import Stencil.Proofs.Script.Statements
import Stencil.Proofs.Script.Dump
import Stencil.Proofs.Script.Names
import Stencil.Proofs.Script.Accepted
import Stencil.Proofs.Script.Seams
import Stencil.Proofs.Script.Alike
import Stencil.Proofs.Script.Breaks
import Stencil.Proofs.Script.Continued
import Stencil.Proofs.Script.Joined
import Stencil.Proofs.Script.Blocks
import Stencil.Proofs.Script.Idle
import Stencil.Proofs.Script.Spellings
import Stencil.Proofs.Script.Numbers
import Stencil.Proofs.Script.Terms
import Stencil.Proofs.Script.Positions
import Stencil.Proofs.Source.Refused
import Stencil.Proofs.Value.Ranges
import Stencil.Proofs.Value.Sizes
import Stencil.Proofs.Source.Verbatim
import Stencil.Proofs.Render.Causes
import Stencil.Proofs.Render.Activities
import Stencil.Proofs.Render.Loops
import Stencil.Proofs.Render.Recovery
import Stencil.Proofs.Render.WholeNumbers
import Stencil.Proofs.Json.Laws
import Stencil.Proofs.Format.Values
import Stencil.Proofs.Format.Templates
import Stencil.Proofs.Value.Views
import Stencil.Proofs.Value.Separators
import Stencil.Proofs.Value.Nested
import Stencil.Proofs.Script.Progress
import Stencil.Proofs.Script.Rounds
import Stencil.Proofs.Script.Trails
import Stencil.Proofs.Script.Discipline
