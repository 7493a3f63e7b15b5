import ArrowGraph.CommandLine.ScriptTool
import ArrowGraph.Console.Conversation

namespace ArrowGraph.CommandLine.ConsoleTool

open Console

inductive Key where
  | verbose
  | drawCommand
  | prompt
  | noBanner
  deriving DecidableEq, Repr

def version : String :=
  "0.1.0"

def banner : String :=
  "\n  QUIVER " ++ version ++ "\n  ──────────────────────────────\n" ++
    "  Type .help for syntax, .exit or Ctrl+D to quit\n"

def usage : String :=
  asLines [
    "usage: quiver [-h] [--version] [-v] [--draw-command DRAW_COMMAND]",
    "              [--prompt PROMPT] [--no-banner]"]

def grammar : Grammar Key where
  program := "quiver"
  usage := usage
  help := usage ++ asLines [
    "",
    "Interactive shell for drawing and composing arrows",
    "",
    "options:",
    "  -h, --help            show this help message and exit",
    "  --version             show program's version number and exit",
    "  -v, --verbose         Log tokens, trees and commands for every line",
    "  --draw-command DRAW_COMMAND",
    "                        External command used by .show (receives source-target",
    "                        pairs)",
    "  --prompt PROMPT       Input prompt",
    "  --no-banner           Skip the welcome banner"]
  version := "quiver " ++ version ++ "\n"
  switches := [
    ⟨["-h", "--help"], .help⟩,
    ⟨["--version"], .version⟩,
    ⟨["-v", "--verbose"], .flag .verbose⟩,
    ⟨["--draw-command"], .value .drawCommand⟩,
    ⟨["--prompt"], .value .prompt⟩,
    ⟨["--no-banner"], .flag .noBanner⟩]
  argument := none

/-- Settings after one more choice. An empty value shows as a pair of brackets in the prompt, and
as a draw command it is none. -/
def choose (settings : Settings) : Choice Key → Settings
  | .flag .verbose => { settings with logLevel := "DEBUG" }
  | .flag .noBanner => { settings with showBanner := false }
  | .value .drawCommand texts => { settings with drawCommand := texts.headD "" }
  | .value .prompt texts => { settings with prompt := texts.headD "[]" }
  | .flag _ | .value .. => settings

def configure (lookup : String → Option String) (choices : List (Choice Key)) : Settings :=
  choices.foldl choose (Settings.ofVariables lookup)

def record (e : Event) : String :=
  e.level.name ++ " " ++ e.origin ++ ": " ++ e.message

structure Inputs where
  lookup : String → Option String
  lines : List String
  renderer : Renderer := .exits 0

/-- Open a console with the given settings. Without a journal there is no console. -/
def openWith (inputs : Inputs) (settings : Settings) : Transcript :=
  match settings.threshold with
  | .error e => { status := .error e.failure }
  | .ok threshold =>
    let setup : Setup := { settings, banner, renderer := inputs.renderer }
    let done := session setup .endOfInput {} inputs.lines
    { output := String.join (done.screen.map Scrap.written)
      errors := asLines ((done.events.filter (·.reaches threshold)).map record)
      status :=
        match done.failure with
        | some failure => .error failure
        | none => .ok 0
      calls := done.calls }

def run (inputs : Inputs) (arguments : List String) : Transcript :=
  match grammar.request arguments with
  | .help => { output := grammar.help, status := .ok 0 }
  | .version => { output := grammar.version, status := .ok 0 }
  | .misuse reason => { errors := grammar.complaint reason, status := .ok 2 }
  | .accepted choices _ => openWith inputs (configure inputs.lookup choices)

end ArrowGraph.CommandLine.ConsoleTool
