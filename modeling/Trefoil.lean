import Trefoil.Binding
import Trefoil.Build
import Trefoil.Checked
import Trefoil.CommandLine
import Trefoil.Datum
import Trefoil.Environment
import Trefoil.Evaluate
import Trefoil.Execute
import Trefoil.Expr
import Trefoil.Expr.Describe
import Trefoil.Failure
import Trefoil.Files
import Trefoil.Files.Error
import Trefoil.Integer
import Trefoil.Log.Journal
import Trefoil.Log.Level
import Trefoil.Log.Record
import Trefoil.Log.Template
import Trefoil.Main
import Trefoil.Node
import Trefoil.Program
import Trefoil.Proofs.Alike
import Trefoil.Proofs.Balance
import Trefoil.Proofs.Built
import Trefoil.Proofs.Callable
import Trefoil.Proofs.Closures
import Trefoil.Proofs.Concrete
import Trefoil.Proofs.Equality
import Trefoil.Proofs.FaultsOfText
import Trefoil.Proofs.Frames
import Trefoil.Proofs.Grammar
import Trefoil.Proofs.KeepGoing
import Trefoil.Proofs.Largest
import Trefoil.Proofs.LineByLine
import Trefoil.Proofs.Literals
import Trefoil.Proofs.MoreRoom
import Trefoil.Proofs.NoFaults
import Trefoil.Proofs.Numerals
import Trefoil.Proofs.Outcome
import Trefoil.Proofs.Placement
import Trefoil.Proofs.Printed
import Trefoil.Proofs.Reachable
import Trefoil.Proofs.ReadBack
import Trefoil.Proofs.RoundTrip
import Trefoil.Proofs.Scoping
import Trefoil.Proofs.SessionEndings
import Trefoil.Proofs.Shown
import Trefoil.Proofs.Soundness
import Trefoil.Proofs.SplitFiles
import Trefoil.Proofs.Substitution
import Trefoil.Proofs.Termination
import Trefoil.Proofs.Tokens
import Trefoil.Proofs.Traces
import Trefoil.Proofs.Trees
import Trefoil.Proofs.Unfinished
import Trefoil.Proofs.ValuesAsSource
import Trefoil.Proofs.WaysToRun
import Trefoil.Proofs.WrappingOnce
import Trefoil.Reader
import Trefoil.Reader.Form
import Trefoil.Reader.Lexeme
import Trefoil.Run
import Trefoil.Scope
import Trefoil.Session
import Trefoil.Settings
import Trefoil.Text.Blank
import Trefoil.Text.CodeRange
import Trefoil.Text.Decimal
import Trefoil.Text.Digits
import Trefoil.Text.Lines
import Trefoil.Text.Lowercase
import Trefoil.Text.Numeral
import Trefoil.Text.Printable
import Trefoil.Text.Quoted
import Trefoil.Traced
import Trefoil.Tree
