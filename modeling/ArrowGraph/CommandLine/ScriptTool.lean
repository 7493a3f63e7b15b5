import ArrowGraph.CommandLine.Options
import ArrowGraph.Script

namespace ArrowGraph.CommandLine

inductive Entry where
  | missing
  | directory
  | file (content : ByteArray)

structure Directory where
  files : List (String × ByteArray)

def baseName (path : String) : String :=
  String.ofList (path.toList.reverse.takeWhile (· ≠ '/')).reverse

/-- The steps of a path: what stands between slashes, and is neither empty nor a dot. -/
def steps (path : String) : List (List Char) :=
  (path.toList.splitOn '/').filter fun step => step ≠ [] && step ≠ ['.']

def asksForDirectory (path : String) : Bool :=
  let last := (baseName path).toList
  last = [] || last = ['.'] || last = ['.', '.']

def longestPath : Nat :=
  4095

/-- What a path leads to from within a directory. Nothing is known of what lies outside it but the
directories on the way there. -/
def Directory.find (d : Directory) (path : String) : Entry :=
  let cs := path.toList
  let way := steps path
  if cs = [] || longestPath < path.utf8ByteSize then .missing
  else if way.all (· = ['.', '.']) then .directory
  else if cs.head? = some '/' || way.contains ['.', '.'] then .missing
  else
    match d.files.find? fun f => steps f.1 = way with
    | some f => if asksForDirectory path then .missing else .file f.2
    | none =>
      if d.files.any fun f => way.isPrefixOf (steps f.1) then .directory else .missing

structure Transcript where
  output : String := ""
  errors : String := ""
  status : Except Failure Nat
  calls : List (List String) := []

def asLines (texts : List String) : String :=
  String.join (texts.map (· ++ "\n"))

namespace ScriptTool

inductive Key where
  | verbose
  deriving DecidableEq, Repr

def grammar : Grammar Key where
  program := "run.py"
  usage := asLines ["usage: run.py [-h] [-v] filepath"]
  help := asLines [
    "usage: run.py [-h] [-v] filepath",
    "",
    "Run a Quiver source file",
    "",
    "positional arguments:",
    "  filepath       Path to a .quiver file",
    "",
    "options:",
    "  -h, --help     show this help message and exit",
    "  -v, --verbose  Debug logging"]
  version := ""
  switches := [⟨["-h", "--help"], .help⟩, ⟨["-v", "--verbose"], .flag .verbose⟩]
  argument := some "filepath"

def record (e : Event) : String :=
  e.level.name ++ ":" ++ e.origin ++ ":" ++ e.message

def runFile (find : String → Entry) (verbose : Bool) (path : String) : Transcript :=
  match find path with
  | .missing => { output := asLines ["Error: File not found: " ++ path], status := .ok 1 }
  | .directory =>
    let reason := "[Errno 21] Is a directory: " ++ Text.quote path
    { status := .error (.given (.foreign "IsADirectoryError") reason) }
  | .file content =>
    match String.fromUTF8? content with
    | none => { status := .error (.given (.foreign "UnicodeDecodeError") "") }
    | some content =>
      let done := Script.run {} (baseName path) content .empty
      { output := asLines done.output
        errors := if verbose then asLines (done.events.map record) else ""
        status := .ok done.status }

def run (find : String → Entry) (arguments : List String) : Transcript :=
  match grammar.request arguments with
  | .help => { output := grammar.help, status := .ok 0 }
  | .version => { output := grammar.version, status := .ok 0 }
  | .misuse reason => { errors := grammar.complaint reason, status := .ok 2 }
  | .accepted choices path =>
    runFile find (choices.contains (.flag .verbose)) (path.getD "")

end ScriptTool
end ArrowGraph.CommandLine
