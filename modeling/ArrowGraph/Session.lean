import ArrowGraph.Command.Apply
import ArrowGraph.Failure

namespace ArrowGraph

structure LineReading where
  events : List Event
  command : Except Failure Command

def Command.ofLine (line : String) : LineReading :=
  match Token.scan line with
  | .error e => ⟨[], .error (.scan e)⟩
  | .ok tokens =>
    match (Expr.read tokens).result with
    | .error e => ⟨[.tokens tokens], .error (.parse e)⟩
    | .ok tree =>
      match Command.ofExpr tree with
      | .error e => ⟨[.tokens tokens, .tree tree], .error (.meaning e)⟩
      | .ok command => ⟨[.tokens tokens, .tree tree, .command command], .ok command⟩

structure Evaluation where
  graph : Graph
  events : List Event
  outcome : Except Failure Report

/-- What befalls lines from outside: the failure that stands in place of the evaluation of a text
which is the line with a given number. -/
structure Mishap where
  befalls : Nat → String → Option Failure := fun _ _ => none

/-- A mishap that strikes a text wherever it stands. -/
instance : Coe (String → Option Failure) Mishap :=
  ⟨fun strikes => ⟨fun _ => strikes⟩⟩

/-- What befalls the lines after the first `count`. -/
def Mishap.after (mishap : Mishap) (count : Nat) : Mishap :=
  ⟨fun number => mishap.befalls (count + number)⟩

namespace Graph

def evaluate (g : Graph) (line : String) : Evaluation :=
  let reading := Command.ofLine line
  match reading.command with
  | .error failure => ⟨g, reading.events, .error failure⟩
  | .ok command =>
    let run := command.apply g
    ⟨run.graph, reading.events ++ run.events, run.outcome.mapError .apply⟩

def evaluateUnless (g : Graph) (mishap : String → Option Failure) (line : String) : Evaluation :=
  match mishap line with
  | some failure => ⟨g, [], .error failure⟩
  | none => g.evaluate line

def resetEvent (g : Graph) : Event :=
  .resetting g.arrows.length

theorem evaluate_graph_of_error {g : Graph} {line : String} {failure : Failure}
    (refused : (Command.ofLine line).command = .error failure) : (g.evaluate line).graph = g := by
  simp [evaluate, refused]

end Graph
end ArrowGraph
