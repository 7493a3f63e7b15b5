import ArrowGraph.Main
import ArrowGraph.Proofs.Graph.Stroke
import ArrowGraph.Proofs.Graph.WellFormed
import ArrowGraph.Proofs.Graph.Growth
import ArrowGraph.Proofs.Graph.Later
import ArrowGraph.Proofs.Graph.Reach
import ArrowGraph.Proofs.Token.Spelled
import ArrowGraph.Proofs.Expr.Line
import ArrowGraph.Proofs.Expr.Written
import ArrowGraph.Proofs.Command.Flat
import ArrowGraph.Proofs.Command.Strokes
import ArrowGraph.Proofs.Command.Labels
import ArrowGraph.Proofs.Command.Holds
import ArrowGraph.Proofs.Command.Idle
import ArrowGraph.Proofs.Command.Fulfilled
import ArrowGraph.Proofs.Session.Step
import ArrowGraph.Proofs.Session.Words
import ArrowGraph.Proofs.Session.Rendering
import ArrowGraph.Proofs.Session.Replay
import ArrowGraph.Proofs.Session.Lasting
import ArrowGraph.Proofs.Graph.Part
import ArrowGraph.Proofs.Session.History
import ArrowGraph.Proofs.Command.Unrelated
import ArrowGraph.Proofs.Session.Declarations
import ArrowGraph.Proofs.Session.Change
import ArrowGraph.Proofs.Session.ChangeLog
import ArrowGraph.Proofs.Expr.Grammar
import ArrowGraph.Proofs.Token.Cut
import ArrowGraph.Proofs.Command.Meaning
import ArrowGraph.Proofs.Command.Origin
import ArrowGraph.Proofs.Command.Refusal
import ArrowGraph.Proofs.Command.Breakdown
import ArrowGraph.Proofs.Session.Failing
import ArrowGraph.Proofs.Graph.Shortest
import ArrowGraph.Proofs.Command.Composing
import ArrowGraph.Proofs.Session.EdgePairs
import ArrowGraph.Proofs.Session.Answers
import ArrowGraph.Proofs.Expr.Spacing
import ArrowGraph.Proofs.Session.Parts
import ArrowGraph.Proofs.Graph.Trip
import ArrowGraph.Proofs.Console.Replies
import ArrowGraph.Proofs.Console.Course
import ArrowGraph.Proofs.Console.Session
import ArrowGraph.Proofs.Console.Turns
import ArrowGraph.Proofs.Graph.Earliest
import ArrowGraph.Proofs.Command.Possible
import ArrowGraph.Proofs.Command.Causes
import ArrowGraph.Proofs.Command.Row
import ArrowGraph.Proofs.Command.Linking
import ArrowGraph.Proofs.Command.Naming
import ArrowGraph.Proofs.Token.Stuck
import ArrowGraph.Proofs.Expr.Misplaced
import ArrowGraph.Proofs.Graph.Bracketing
import ArrowGraph.Proofs.Expr.Recursion
import ArrowGraph.Proofs.Session.Spacing
import ArrowGraph.Proofs.Command.Reached
import ArrowGraph.Proofs.Session.Journal
import ArrowGraph.Proofs.FirstSeen
import ArrowGraph.Proofs.Report
