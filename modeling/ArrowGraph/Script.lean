import ArrowGraph.Session
import ArrowGraph.Text.Layout

/-!
Scripts: files of lines that are evaluated in one session. Blank lines and lines that start with a
number sign are passed over; a failure does not stop the lines after it.
-/
namespace ArrowGraph.Script

def isPassedOver (line : String) : Bool :=
  match line.toList with
  | [] | '#' :: _ => true
  | _ => false

def warning (number : Nat) (failure : Failure) : String :=
  "  ⚠ L" ++ toString number ++ ": " ++
    (if failure.kind.isNative then "" else "Error: ") ++ failure.kind.name ++ ": " ++
      failure.message

structure Progress where
  graph : Graph
  output : List String := []
  events : List Event := []
  failures : Nat := 0

/-- What came of the lines before those of `rest` is put in front. -/
def Progress.after (rest first : Progress) : Progress :=
  { graph := rest.graph
    output := first.output ++ rest.output
    events := first.events ++ rest.events
    failures := first.failures + rest.failures }

def runLine (mishap : Mishap) (g : Graph) (number : Nat) (line : String) : Progress :=
  let line := Text.strip line
  if isPassedOver line then { graph := g }
  else
    let evaluation := g.evaluateUnless (mishap.befalls number) line
    match evaluation.outcome with
    | .ok report =>
      { graph := evaluation.graph
        output := [report.display]
        events := evaluation.events
        failures := if report.ok then 0 else 1 }
    | .error failure =>
      { graph := evaluation.graph
        output := [warning number failure]
        events := evaluation.events
        failures := 1 }

def runLines (mishap : Mishap) (g : Graph) (number : Nat) : List String → Progress
  | [] => { graph := g }
  | line :: lines =>
    let first := runLine mishap g number line
    (runLines mishap first.graph (number + 1) lines).after first

structure Outcome where
  graph : Graph
  output : List String
  events : List Event
  /-- The exit status: 0 when every line succeeded. -/
  status : Nat

/-- Run a script of the given title on a graph. The content may end its lines in any way. -/
def run (mishap : Mishap) (title content : String) (g : Graph) : Outcome :=
  let content := String.ofList (Text.unifyBreaks content.toList)
  let done := runLines mishap g 1 (Text.lines content)
  let summary :=
    "─── " ++ toString done.graph.objects.length ++ " objects, " ++
      toString done.graph.arrows.length ++ " arrows ───"
  let verdict :=
    if done.failures = 0 then [] else ["✘ " ++ toString done.failures ++ " line(s) failed"]
  { graph := done.graph
    output := ["─── Running: " ++ title ++ " ───"] ++ done.output ++ [summary] ++ verdict
    events := done.events
    status := if done.failures = 0 then 0 else 1 }

end ArrowGraph.Script
