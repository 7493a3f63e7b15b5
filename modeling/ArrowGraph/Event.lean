import ArrowGraph.Command
import ArrowGraph.Expr
import ArrowGraph.Report
import ArrowGraph.Token

namespace ArrowGraph

inductive Level where
  | debug
  | info
  deriving DecidableEq, Repr

namespace Level

def name : Level → String
  | .debug => "DEBUG"
  | .info => "INFO"

def weight : Level → Nat
  | .debug => 10
  | .info => 20

end Level

inductive Event where
  | tokens (tokens : List Token)
  | tree (tree : Expr)
  | command (command : Command)
  | applying (command : Command)
  | failed (command : Command) (report : Report)
  | resetting (count : Nat)
  | rendering (arguments : List String)
  /-- A line failed in a way that the language does not know. -/
  | unexpected (line : String)
  deriving DecidableEq, Repr

namespace Event

def level : Event → Level
  | .failed .. => .info
  | _ => .debug

def origin : Event → String
  | .rendering _ | .unexpected _ => "quiver.shell"
  | _ => "quiver.controller"

/-- What the record says. An expression that was read from a line always has a text. -/
def message : Event → String
  | .tokens ts => "tokens: " ++ Token.displayAll ts
  | .tree e => "tree: " ++ e.render?.getD ""
  | .command c => "command: " ++ c.display
  | .applying c => "applying " ++ c.display
  | .failed c report => c.title ++ " failed: " ++ report.message
  | .resetting count => "resetting environment (" ++ toString count ++ " arrows)"
  | .rendering arguments => "rendering with " ++ Text.bracketed (arguments.map Text.quote)
  | .unexpected line => "unexpected error evaluating " ++ Text.quote line

def reaches (threshold : Nat) (e : Event) : Bool :=
  threshold ≤ e.level.weight

end Event
end ArrowGraph
