import ArrowGraph.CommandLine.ConsoleTool

namespace ArrowGraph

open Console CommandLine

def finish (done : Transcript) : IO UInt32 := do
  IO.print done.output
  IO.eprint done.errors
  match done.status with
  | .ok status => return status.toUInt32
  | .error failure =>
    IO.eprintln (failure.kind.name ++ ": " ++ failure.message)
    return 1

def look (path : String) : IO Entry := do
  try
    return .file (← IO.FS.readBinFile path)
  catch
    | .inappropriateType .. => return .directory
    | _ => return .missing

partial def interact (setup : Setup) (threshold : Nat) (state : State)
    (input : IO.FS.Stream) : IO UInt32 := do
  if state.halted then return 0
  IO.print setup.settings.prompt
  (← IO.getStdout).flush
  let line ← input.getLine
  if line.isEmpty then
    IO.println ""
    return 0
  let answer := reply setup state line
  for text in answer.output do IO.println text
  for e in answer.events do
    if e.reaches threshold then IO.eprintln (ConsoleTool.record e)
  match answer.failure with
  | some failure => finish { status := .error failure }
  | none => interact setup threshold answer.state input

/-- Open a console on the terminal. External renderers are not started. -/
def openConsole (settings : Settings) : IO UInt32 := do
  match settings.threshold with
  | .error e => finish { status := .error e.failure }
  | .ok threshold =>
    let setup : Setup :=
      { settings, renderer := .unavailable "external programs are not started" }
    if settings.showBanner then IO.println ConsoleTool.banner
    interact setup threshold { halted := false } (← IO.getStdin)

def settingVariables : IO (String → Option String) := do
  let names := ["QUIVER_PROMPT", "QUIVER_DRAW_COMMAND", "QUIVER_LOG_LEVEL"]
  let values ← names.mapM fun name => do return (name, ← IO.getEnv name)
  return fun name => (values.lookup name).join

end ArrowGraph

open ArrowGraph CommandLine in
def main (arguments : List String) : IO UInt32 := do
  match arguments with
  | "run" :: arguments =>
    match ScriptTool.grammar.request arguments with
    | .accepted _ (some path) =>
      let entry ← look path
      finish (ScriptTool.run (fun _ => entry) arguments)
    | _ => finish (ScriptTool.run (fun _ => .missing) arguments)
  | arguments =>
    match ConsoleTool.grammar.request arguments with
    | .accepted choices _ => openConsole (ConsoleTool.configure (← settingVariables) choices)
    | _ => finish (ConsoleTool.run { lookup := fun _ => none, lines := [] } arguments)
