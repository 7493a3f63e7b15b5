import ArrowGraph.Console.Reply

namespace ArrowGraph.Console

inductive Ending where
  | endOfInput
  | interrupt
  | failure (failure : Failure)
  deriving DecidableEq, Repr

inductive Scrap where
  | prompt (text : String)
  | text (text : String)
  deriving DecidableEq, Repr

/-- A scrap as it is written: a text fills its lines, a prompt does not end its own. -/
def Scrap.written : Scrap → String
  | .prompt t => t
  | .text t => t ++ "\n"

structure Conversation where
  state : State
  screen : List Scrap := []
  calls : List (List String) := []
  events : List Event := []
  unread : List String := []
  failure : Option Failure := none

namespace Conversation

def output (talk : Conversation) : List String :=
  talk.screen.filterMap fun
    | .text text => some text
    | .prompt _ => none

def prompts (talk : Conversation) : List String :=
  talk.screen.filterMap fun
    | .prompt text => some text
    | .text _ => none

/-- The conversation in which `first` is answered before all else, after one more prompt. -/
def after (rest : Conversation) (prompt : String) (first : Reply) : Conversation :=
  { rest with
    screen := .prompt prompt :: first.output.map .text ++ rest.screen
    calls := first.calls ++ rest.calls
    events := first.events ++ rest.events }

end Conversation

def converse (setup : Setup) (ending : Ending) (state : State) : List String → Conversation
  | [] =>
    let prompt := Scrap.prompt setup.settings.prompt
    if state.halted then { state }
    else
      match ending with
      | .endOfInput | .interrupt => { state, screen := [prompt, .text ""] }
      | .failure failure => { state, screen := [prompt], failure := some failure }
  | line :: lines =>
    if state.halted then { state, unread := line :: lines }
    else
      let first := reply setup state line
      let rest : Conversation :=
        match first.failure with
        | some failure => { state := first.state, unread := lines, failure := some failure }
        | none => converse setup ending first.state lines
      rest.after setup.settings.prompt first

/-- Greet, then answer lines until the end; whatever the end was, the console is halted after it. -/
def session (setup : Setup) (ending : Ending) (state : State) (lines : List String) :
    Conversation :=
  let talk := converse setup ending { state with halted := false } lines
  let greeting :=
    if setup.banner ≠ "" && setup.settings.showBanner then [Scrap.text setup.banner] else []
  { talk with
    state := { talk.state with halted := true }
    screen := greeting ++ talk.screen }

end ArrowGraph.Console
