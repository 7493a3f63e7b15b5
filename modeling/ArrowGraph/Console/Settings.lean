import ArrowGraph.Failure
import ArrowGraph.Text.Casing

namespace ArrowGraph.Console

inductive LevelError where
  /-- The name stands for the layout of a record. -/
  | recordLayout
  /-- The name stands for the table of layouts, one for each way to mark a field. -/
  | layoutTable
  deriving DecidableEq, Repr

def recordLayout : String :=
  "%(levelname)s:%(name)s:%(message)s"

/-- The layouts by the mark of their fields, with the name of the part that fills them in. -/
def layouts : List (String × String × String) :=
  [("%", "PercentStyle", recordLayout),
   ("\x7b", "StrFormatStyle", "\x7blevelname\x7d:\x7bname\x7d:\x7bmessage\x7d"),
   ("$", "StringTemplateStyle", "$\x7blevelname\x7d:$\x7bname\x7d:$\x7bmessage\x7d")]

namespace LevelError

def message : LevelError → String
  | .recordLayout => "Unknown level: " ++ Text.quote Console.recordLayout
  | .layoutTable =>
    let entries := layouts.map fun (sign, style, layout) =>
      Text.quote sign ++ ": (<class 'logging." ++ style ++ "'>, " ++ Text.quote layout ++ ")"
    "Level not an integer or a valid string: \x7b" ++ ", ".intercalate entries ++ "\x7d"

def failure (e : LevelError) : Failure :=
  match e with
  | .recordLayout => .given (.foreign "ValueError") e.message
  | .layoutTable => .given (.foreign "TypeError") e.message

end LevelError

structure Settings where
  prompt : String := "> "
  /-- The words of the external renderer; none when empty. -/
  drawCommand : String := ""
  /-- The name of the lightest level that the journal keeps. -/
  logLevel : String := "WARNING"
  showBanner : Bool := true
  deriving DecidableEq, Repr

namespace Settings

/-- Settings from variables; an absent variable leaves its setting as it is by default. The name of
a level may be given in any case. -/
def ofVariables (lookup : String → Option String) : Settings :=
  let standard : Settings := {}
  { prompt := (lookup "QUIVER_PROMPT").getD standard.prompt
    drawCommand := (lookup "QUIVER_DRAW_COMMAND").getD standard.drawCommand
    logLevel := Text.upper ((lookup "QUIVER_LOG_LEVEL").getD standard.logLevel) }

def threshold (settings : Settings) : Except LevelError Nat :=
  match settings.logLevel with
  | "NOTSET" => .ok 0
  | "DEBUG" => .ok 10
  | "INFO" => .ok 20
  | "ERROR" => .ok 40
  | "CRITICAL" | "FATAL" => .ok 50
  | "BASIC_FORMAT" => .error .recordLayout
  | "_STYLES" => .error .layoutTable
  | _ => .ok 30

end Settings
end ArrowGraph.Console
