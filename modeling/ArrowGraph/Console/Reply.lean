import ArrowGraph.Console.Settings
import ArrowGraph.Session
import ArrowGraph.Text.Layout

/-!
What the console answers to one line. A line that starts with a dot is a directive; every other line
that is not blank is evaluated.
-/
namespace ArrowGraph.Console

inductive CallEnd where
  | exited (status : Int)
  | notRun (reason : String)
  deriving DecidableEq, Repr

/-- The external renderer: how the call ends that is made for the line with a given number. -/
structure Renderer where
  call : Nat → CallEnd

namespace Renderer

def exits (status : Int) : Renderer :=
  ⟨fun _ => .exited status⟩

def unavailable (reason : String) : Renderer :=
  ⟨fun _ => .notRun reason⟩

end Renderer

structure Setup where
  settings : Settings := {}
  banner : String := ""
  renderer : Renderer := .exits 0
  mishap : Mishap := {}

/-- The state of a console. A console that has not been opened is halted. -/
structure State where
  graph : Graph := .empty
  halted : Bool := true
  /-- The number of lines that were answered; what comes from outside may depend on it. -/
  answered : Nat := 0
  deriving DecidableEq, Repr

def State.next (state : State) : State :=
  { state with answered := state.answered + 1 }

@[simp]
theorem State.next_graph (state : State) : state.next.graph = state.graph := rfl

@[simp]
theorem State.next_halted (state : State) : state.next.halted = state.halted := rfl

structure Reply where
  state : State
  output : List String := []
  calls : List (List String) := []
  events : List Event := []
  /-- The report, when the line was evaluated and came to one. -/
  report : Option Report := none
  failure : Option Failure := none

def helpText : String :=
  "\n".intercalate [
    "",
    "  Statements",
    "    a -> b            draw an arrow from object a to object b",
    "    a -> b -> c       draw a chain of arrows",
    "    f: a -> b         draw an arrow named f",
    "    g . f             compose arrows (f first, then g)",
    "    h: g . f          name a composition",
    "    a -- c            find a route from a to c",
    "    a                 describe an object or arrow",
    "    s1; s2            several statements on one line",
    "",
    "  Commands",
    "    .list     objects and arrows",
    "    .show     render the graph",
    "    .reset    forget every arrow",
    "    .help     this text",
    "    .exit     leave",
    ""]

inductive Directive where
  | help
  | list
  | render
  | reset
  | leave
  deriving DecidableEq, Repr

def Directive.ofWord? : String → Option Directive
  | ".help" => some .help
  | ".list" => some .list
  | ".show" => some .render
  | ".reset" => some .reset
  | ".exit" | ".quit" => some .leave
  | _ => none

def directiveWord (line : String) : String :=
  Text.lower (Text.firstWord line)

def listing (g : Graph) : List String :=
  if g.arrows.isEmpty then ["  (no arrows)"]
  else
    ["  ─── Objects ───", "    " ++ ", ".intercalate g.objects, "  ─── Arrows ───"] ++
      g.arrows.map fun a => "    " ++ a.text

/-- Hand the edges to the renderer, or write them when there is none. A renderer's command that does
not fall into words ends the console. -/
def renderReply (setup : Setup) (state : State) : Reply :=
  let pairs := state.graph.edgePairs
  if pairs.isEmpty then { state, output := ["  (no arrows)"] }
  else if setup.settings.drawCommand = "" then
    { state, output := ["  " ++ " ".intercalate pairs] }
  else
    match Text.commandWords setup.settings.drawCommand with
    | .error e => { state, failure := some (.given (.foreign "ValueError") e.message) }
    | .ok words =>
      let arguments := words ++ pairs
      let program := arguments.headD ""
      { state
        calls := [arguments]
        events := [.rendering arguments]
        output :=
          match setup.renderer.call state.answered with
          | .notRun reason => ["  ⚠ Could not run " ++ program ++ ": " ++ reason]
          | .exited status =>
            if status = 0 then []
            else ["  ⚠ " ++ program ++ " exited with status " ++ toString status] }

def directiveReply (setup : Setup) (state : State) (line : String) : Reply :=
  let word := directiveWord line
  match Directive.ofWord? word with
  | none => { state, output := ["  ⚠ Unknown command: " ++ word ++ " (try .help)"] }
  | some .help => { state, output := [helpText] }
  | some .list => { state, output := listing state.graph }
  | some .render => renderReply setup state
  | some .reset =>
    { state := { state with graph := .empty }
      events := [state.graph.resetEvent]
      output := ["  ∅ Environment cleared."] }
  | some .leave => { state := { state with halted := true } }

def warning (failure : Failure) : String :=
  "  ⚠ " ++ failure.kind.heading ++ ": " ++ failure.message

def statementReply (setup : Setup) (state : State) (line : String) : Reply :=
  let evaluation := state.graph.evaluateUnless (setup.mishap.befalls state.answered) line
  let state := { state with graph := evaluation.graph }
  match evaluation.outcome with
  | .ok report =>
    { state, events := evaluation.events, output := [report.display], report := some report }
  | .error failure =>
    { state
      events := evaluation.events ++
        if failure.kind.isNative then [] else [.unexpected line]
      output := [warning failure] }

def reply (setup : Setup) (state : State) (line : String) : Reply :=
  let state := state.next
  let line := Text.strip line
  match line.toList with
  | [] => { state }
  | '.' :: _ => directiveReply setup state line
  | _ => statementReply setup state line

theorem reply_blank {setup : Setup} {state : State} {line : String}
    (blank : Text.strip line = "") : reply setup state line = { state := state.next } := by
  simp [reply, blank]

end ArrowGraph.Console
