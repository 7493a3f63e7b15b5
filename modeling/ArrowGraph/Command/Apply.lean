import ArrowGraph.Command
import ArrowGraph.Event
import ArrowGraph.Graph.Drawing

/-!
Carrying out a command, and the journal of doing so. There is no way back: what was drawn before a
refusal or a breakdown stays drawn. The commands of a batch are carried out in order, also after a
failure, up to the first that breaks down; their reports become one.
-/
namespace ArrowGraph

/-- Why a command breaks down, in place of coming to a report. -/
inductive ApplyError where
  /-- Nothing is known about what is wanted. -/
  | unspecified
  | mismatch (pair : Mismatch)
  /-- A name is to be given to the arrow from the first to the last of no objects. -/
  | noObjects
  | noArrows
  deriving DecidableEq, Repr

def ApplyError.message : ApplyError → String
  | .unspecified => "Unknown command: " ++ Statement.unspecified.display
  | .mismatch pair => pair.message
  | .noObjects => "tuple index out of range"
  | .noArrows => "reduce() of empty iterable with no initial value"

structure Effect where
  graph : Graph
  outcome : Except ApplyError Report

def neighbours (xs : List String) : List (String × String) :=
  xs.zip xs.tail

namespace Graph

def missing (g : Graph) (names : List String) : Report :=
  Report.merge ((names.filter fun n => !g.hasName n).map fun n => (Notice.noArrow n).report)

/-- Compose two arrows by their names, and draw the composite in the given way. -/
def composeInto (drawing : Graph → String → String → Graph × Notice) (g : Graph)
    (outer inner : String) : Effect :=
  match g.arrow? outer, g.arrow? inner with
  | some a, some b =>
    match a.compose b with
    | .ok c =>
      let drawn := drawing g c.source c.target
      ⟨drawn.1, .ok drawn.2.report⟩
    | .error pair => ⟨g, .error (.mismatch pair)⟩
  | _, _ => ⟨g, .ok (g.missing [outer, inner])⟩

/-- The reports of composing pairs of arrows, up to the first pair that breaks down, and the graph
that is left. -/
def composeEach (g : Graph) :
    List (String × String) → Graph × Except ApplyError (List Report)
  | [] => (g, .ok [])
  | (outer, inner) :: pairs =>
    let first := composeInto draw g outer inner
    match first.outcome with
    | .error e => (first.graph, .error e)
    | .ok report =>
      let others := composeEach first.graph pairs
      (others.1, (report :: ·) <$> others.2)

def composeAll : List Arrow → Except ApplyError Arrow
  | [] => .error .noArrows
  | a :: as => (as.foldlM Arrow.compose a).mapError .mismatch

/-- Draw the composite of each two neighbours; if all of them succeed, draw that of the whole row in
the given way. -/
def composeRow (drawing : Graph → String → String → Graph × Notice) (g : Graph)
    (names : List String) : Effect :=
  let (between, steps) := g.composeEach (neighbours names)
  match steps with
  | .error e => ⟨between, .error e⟩
  | .ok reports =>
    let links := Report.merge reports
    if !links.ok then ⟨between, .ok links⟩
    else
      match composeAll (names.filterMap between.arrow?) with
      | .error e => ⟨between, .error e⟩
      | .ok whole =>
        let drawn := drawing between whole.source whole.target
        ⟨drawn.1, .ok (Report.merge [links, drawn.2.report])⟩

/-- Draw an arrow between each two neighbours. A refusal does not stop the arrows after it. -/
def drawRow (g : Graph) (objects : List String) : Graph × Report :=
  let drawn := g.drawEach (neighbours objects)
  (drawn.1, Report.merge (drawn.2.map Notice.report))

def drawNamedRow (g : Graph) (name : String) (objects : List String) : Effect :=
  let (between, links) := g.drawRow objects
  if !links.ok then ⟨between, .ok links⟩
  else
    match objects.head?, objects.getLast? with
    | some first, some last =>
      let drawn := between.drawNamed name first last
      ⟨drawn.1, .ok (Report.merge [links, drawn.2.report])⟩
    | _, _ => ⟨between, .error .noObjects⟩

end Graph

def Statement.perform (s : Statement) (g : Graph) : Effect :=
  match s with
  | .skip => ⟨g, .ok (.success "")⟩
  | .describe name => ⟨g, .ok (g.describe name).report⟩
  | .findRoute origin destination => ⟨g, .ok (g.findRoute origin destination).report⟩
  | .draw source target =>
    let drawn := g.draw source target
    ⟨drawn.1, .ok drawn.2.report⟩
  | .drawNamed name source target =>
    let drawn := g.drawNamed name source target
    ⟨drawn.1, .ok drawn.2.report⟩
  | .compose outer inner => Graph.composeInto Graph.draw g outer inner
  | .composeNamed name outer inner =>
    Graph.composeInto (·.drawNamed name · ·) g outer inner
  | .drawChain objects =>
    let drawn := g.drawRow objects
    ⟨drawn.1, .ok drawn.2⟩
  | .drawNamedChain name objects => g.drawNamedRow name objects
  | .composeChain arrows => Graph.composeRow Graph.draw g arrows
  | .composeNamedChain name arrows =>
    Graph.composeRow (·.drawNamed name · ·) g arrows
  | .unspecified => ⟨g, .error .unspecified⟩

structure Run where
  graph : Graph
  events : List Event
  outcome : Except ApplyError Report

structure BatchRun where
  graph : Graph
  events : List Event
  outcome : Except ApplyError (List Report)

namespace Command

/-- The record of a failure; success and breakdown leave none. -/
def failureEvents (command : Command) : Except ApplyError Report → List Event
  | .ok report => if report.ok then [] else [.failed command report]
  | .error _ => []

mutual

def apply (g : Graph) : Command → Run
  | .single s =>
    let effect := s.perform g
    ⟨effect.graph, .applying (.single s) :: failureEvents (.single s) effect.outcome,
      effect.outcome⟩
  | .batch commands =>
    let run := applyEach g commands
    let outcome := Report.merge <$> run.outcome
    ⟨run.graph,
      .applying (.batch commands) :: run.events ++ failureEvents (.batch commands) outcome,
      outcome⟩

/-- Carry out commands one after another, up to the first that breaks down. -/
def applyEach (g : Graph) : List Command → BatchRun
  | [] => ⟨g, [], .ok []⟩
  | c :: cs =>
    let first := apply g c
    match first.outcome with
    | .error e => ⟨first.graph, first.events, .error e⟩
    | .ok report =>
      let others := applyEach first.graph cs
      ⟨others.graph, first.events ++ others.events, (report :: ·) <$> others.outcome⟩

end

end Command

end ArrowGraph
