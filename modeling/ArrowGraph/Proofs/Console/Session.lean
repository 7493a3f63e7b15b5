import ArrowGraph.Proofs.Console.Course
import Mathlib.Tactic.ByContra

namespace ArrowGraph.Console

/-- The lines up to the first that asks to leave, that one included. -/
def heard : List String → List String
  | [] => []
  | line :: lines => if IsFarewell line then [line] else line :: heard lines

def State.opened (state : State) : State :=
  { state with halted := false }

def greeting (setup : Setup) : List String :=
  if setup.banner ≠ "" && setup.settings.showBanner then [setup.banner] else []

variable {setup : Setup} {ending : Ending} {state : State} {line : String}
  {lines before : List String}

theorem heard_append (stay : ∀ line ∈ before, ¬ IsFarewell line) (after : List String) :
    heard (before ++ after) = before ++ heard after := by
  induction before with
  | nil => rfl
  | cons line before ih =>
    obtain ⟨stays, others⟩ := List.forall_mem_cons.mp stay
    rw [List.cons_append, heard, if_neg stays, ih others, List.cons_append]

theorem heard_of_stay (stay : ∀ line ∈ lines, ¬ IsFarewell line) : heard lines = lines := by
  simpa [heard] using heard_append stay []

theorem heard_farewell (stay : ∀ line ∈ before, ¬ IsFarewell line) (leaves : IsFarewell line)
    (after : List String) : heard (before ++ line :: after) = before ++ [line] := by
  rw [heard_append stay, heard, if_pos leaves]

theorem session_of_converse {rest : Conversation} {answers : List Reply}
    (course : converse setup ending state.opened lines =
      rest.afterAll setup.settings.prompt answers) :
    let talk := session setup ending state lines
    talk.prompts = List.replicate answers.length setup.settings.prompt ++ rest.prompts ∧
    talk.output = greeting setup ++ (answers.flatMap Reply.output ++ rest.output) ∧
    talk.calls = answers.flatMap Reply.calls ++ rest.calls ∧
    talk.events = answers.flatMap Reply.events ++ rest.events ∧
    talk.state = { rest.state with halted := true } ∧ talk.unread = rest.unread ∧
    talk.failure = rest.failure := by
  intro talk
  have same : talk = session setup ending state lines := rfl
  rw [session, ← State.opened, course] at same
  rw [← Conversation.prompts_afterAll, ← Conversation.output_afterAll, same]
  refine ⟨?_, ?_, rfl, rfl, rfl, rfl, rfl⟩
  · simp only [Conversation.prompts, List.filterMap_append]
    split <;> rfl
  · simp only [Conversation.output, List.filterMap_append, greeting]
    split <;> rfl

theorem session_through (ending : Ending) (passes : Passes setup state.opened lines) :
    let talk := session setup ending state lines
    let answers := replies setup state.opened lines
    talk.prompts = List.replicate (lines.length + 1) setup.settings.prompt ∧
    talk.output = greeting setup ++ answers.flatMap Reply.output ++ ending.lastTexts ∧
    talk.calls = answers.flatMap Reply.calls ∧ talk.events = answers.flatMap Reply.events ∧
    talk.state = { stateAfter setup state.opened lines with halted := true } ∧
    talk.unread = [] ∧ talk.failure = ending.failure? := by
  obtain ⟨prompts, output, calls, events, final, unread, failed⟩ :=
    session_of_converse (converse_through ending rfl passes)
  rw [prompts_closing, length_replies, ← List.replicate_succ'] at prompts
  rw [output_closing, ← List.append_assoc] at output
  exact ⟨prompts, output, calls.trans (List.append_nil _), events.trans (List.append_nil _),
    final, unread, failed⟩

theorem session_stops (ending : Ending) (passes : Passes setup state.opened before)
    (stops : Stops setup (stateAfter setup state.opened before) line) (after : List String) :
    let talk := session setup ending state (before ++ line :: after)
    let answers := replies setup state.opened (before ++ [line])
    talk.prompts = List.replicate (before ++ [line]).length setup.settings.prompt ∧
    talk.output = greeting setup ++ answers.flatMap Reply.output ∧
    talk.calls = answers.flatMap Reply.calls ∧ talk.events = answers.flatMap Reply.events ∧
    talk.state = { stateAfter setup state.opened (before ++ [line]) with halted := true } ∧
    talk.unread = after ∧
    talk.failure = (reply setup (stateAfter setup state.opened before) line).failure := by
  have course := converse_stops ending rfl passes stops after
  generalize (reply setup (stateAfter setup state.opened before) line).failure = failed at course ⊢
  obtain ⟨prompts, output, calls, events, final, unread, failed⟩ := session_of_converse course
  rw [length_replies] at prompts
  rw [← List.append_assoc] at output
  exact ⟨prompts.trans (List.append_nil _), output.trans (List.append_nil _),
    calls.trans (List.append_nil _), events.trans (List.append_nil _), final, unread, failed⟩

/-- A session in which no reply fails answers the lines up to the first farewell in their order. It
reads no line after that, and the end only when there is no farewell. -/
theorem session_answers_in_order (setup : Setup) (ending : Ending) (state : State)
    (lines : List String)
    (calm : ∀ answer ∈ replies setup state.opened (heard lines), answer.failure = none) :
    let talk := session setup ending state lines
    let answers := replies setup state.opened (heard lines)
    let farewell := ∃ line ∈ lines, IsFarewell line
    talk.prompts =
      List.replicate ((heard lines).length + if farewell then 0 else 1) setup.settings.prompt ∧
    talk.output = greeting setup ++ answers.flatMap Reply.output ++
      (if farewell then [] else ending.lastTexts) ∧
    talk.calls = answers.flatMap Reply.calls ∧
    talk.events = answers.flatMap Reply.events ∧
    talk.state = { stateAfter setup state.opened (heard lines) with halted := true } ∧
    talk.unread = lines.drop (heard lines).length ∧
    talk.failure = if farewell then none else ending.failure? := by
  intro talk answers farewell
  cases course setup state.opened lines with
  | through passes =>
    have stays : ¬ farewell := fun ⟨line, member, leaves⟩ => passes.1 line member leaves
    have all : heard lines = lines := heard_of_stay passes.1
    simp only [if_neg stays, answers, all, List.drop_length]
    exact session_through ending passes
  | stops before line passes stops after =>
    have leaves : IsFarewell line := by
      by_contra goesOn
      rw [heard_append passes.1, heard, if_neg goesOn] at calm
      exact stops.resolve_left goesOn (calm _ (mem_replies ..))
    have leave : farewell := ⟨line, by simp, leaves⟩
    have last : heard (before ++ line :: after) = before ++ [line] :=
      heard_farewell passes.1 leaves after
    have rest : (before ++ line :: after).drop (before ++ [line]).length = after := by simp
    rw [last] at calm
    obtain ⟨prompts, output, calls, events, final, unread, failed⟩ :=
      session_stops ending passes stops after
    rw [calm _ (mem_replies ..)] at failed
    simp only [if_pos leave, answers, last, rest, List.append_nil, Nat.add_zero]
    exact ⟨prompts, output, calls, events, final, unread, failed⟩

/-- A blank line, a drawing, a line that a mishap befalls in its first place only, a renderer that
ends in two ways, and a farewell, after which a line is left. -/
theorem session_answers_in_order_left :
    let lost := Failure.given (.foreign "ValueError") "lost"
    let setup : Setup :=
      { settings := { prompt := "? ", drawCommand := "draw 'in colour'" }
        banner := "Hello"
        renderer := ⟨fun number => if number = 4 then .exited 3 else .notRun "gone"⟩
        mishap := ⟨fun number _ => if number = 3 then some lost else none⟩ }
    let lines := [" ", "f: a -> b", "c", " .Show it", "c", ".show", ".QUIT now", "c -> d"]
    let talk := session setup .endOfInput {} lines
    (∀ answer ∈ replies setup (State.opened {}) (heard lines), answer.failure = none) ∧
    talk.prompts = ["? ", "? ", "? ", "? ", "? ", "? ", "? "] ∧
    talk.output = ["Hello", "  ✔ Drew arrow f: a -> b", "  ⚠ Error: ValueError: lost",
      "  ⚠ draw exited with status 3", "  ✘ Nothing named c", "  ⚠ Could not run draw: gone"] ∧
    talk.calls = [["draw", "in colour", "a-b"], ["draw", "in colour", "a-b"]] ∧
    talk.state = ⟨⟨[⟨"a", "b", some "f"⟩]⟩, true, 7⟩ ∧ talk.unread = ["c -> d"] ∧
    talk.failure = none := by
  intro lost setup lines talk
  have calm : ∀ answer ∈ replies setup (State.opened {}) (heard lines), answer.failure = none := by
    decide +kernel
  obtain ⟨prompts, output, calls, _, final, unread, failed⟩ :=
    session_answers_in_order setup .endOfInput {} lines calm
  exact ⟨calm, prompts.trans (by decide +kernel), output.trans (by decide +kernel),
    calls.trans (by decide +kernel), final.trans (by decide +kernel),
    unread.trans (by decide +kernel), failed.trans (by decide +kernel)⟩

/-- The command of the renderer has an open quote, which is noticed once there is an arrow. The
mishap strikes its text in both places. -/
example :
    let strikes : String → Option Failure :=
      fun text => if text = "a" then some (.given .general "lost") else none
    let setup : Setup := { settings := { drawCommand := "draw 'x" }, mishap := strikes }
    let talk := session setup .endOfInput {} ["a", ".show", "a -> b", "a", ".show", "c -> d"]
    talk.failure = some (.given (.foreign "ValueError") "No closing quotation") ∧
    talk.output =
      ["  ⚠ Error: lost", "  (no arrows)", "  ✔ Drew arrow a -> b", "  ⚠ Error: lost"] ∧
    talk.state = ⟨⟨[⟨"a", "b", none⟩]⟩, true, 5⟩ ∧ talk.unread = ["c -> d"] := by
  decide +kernel

end ArrowGraph.Console
