import ArrowGraph.Proofs.Console.Replies

/-! The course of a conversation. It goes on line by line until a line asks to leave, a line breaks
it off, or the lines run out. So a session is the row of its replies up to there, and fails only
where a line is wanted and cannot be read, or where a graph cannot be shown. -/
namespace ArrowGraph.Console

/-- The console goes on after the lines: none of them asks to leave, and no reply fails. -/
def Passes (setup : Setup) (state : State) (lines : List String) : Prop :=
  (∀ line ∈ lines, ¬ IsFarewell line) ∧ ∀ answer ∈ replies setup state lines, answer.failure = none

def Reply.shown (prompt : String) (answer : Reply) : List Scrap :=
  .prompt prompt :: answer.output.map .text

namespace Conversation

/-- The conversation in which the replies are given before all else, each after a prompt. -/
def afterAll (rest : Conversation) (prompt : String) (answers : List Reply) : Conversation :=
  { rest with
    screen := answers.flatMap (Reply.shown prompt) ++ rest.screen
    calls := answers.flatMap Reply.calls ++ rest.calls
    events := answers.flatMap Reply.events ++ rest.events }

theorem after_afterAll (rest : Conversation) (prompt : String) (first : Reply)
    (others : List Reply) :
    (rest.afterAll prompt others).after prompt first = rest.afterAll prompt (first :: others) := by
  simp [after, afterAll, Reply.shown]

theorem afterAll_after (rest : Conversation) (prompt : String) (last : Reply)
    (others : List Reply) :
    (rest.after prompt last).afterAll prompt others = rest.afterAll prompt (others ++ [last]) := by
  simp [after, afterAll, Reply.shown]

theorem output_afterAll (rest : Conversation) (prompt : String) (answers : List Reply) :
    (rest.afterAll prompt answers).output = answers.flatMap Reply.output ++ rest.output := by
  simp only [output, afterAll, List.filterMap_append]
  congr 1
  induction answers with
  | nil => rfl
  | cons first others ih =>
    rw [List.flatMap_cons, List.flatMap_cons, List.filterMap_append, ih]
    simp only [Reply.shown, List.filterMap_cons, List.filterMap_map, Function.comp_def,
      List.filterMap_some]

theorem prompts_afterAll (rest : Conversation) (prompt : String) (answers : List Reply) :
    (rest.afterAll prompt answers).prompts =
      List.replicate answers.length prompt ++ rest.prompts := by
  simp only [prompts, afterAll, List.filterMap_append]
  congr 1
  induction answers with
  | nil => rfl
  | cons first others ih =>
    rw [List.flatMap_cons, List.filterMap_append, ih]
    have noText : first.output.filterMap (fun _ => (none : Option String)) = [] :=
      List.filterMap_eq_nil_iff.mpr fun _ _ => rfl
    simp only [Reply.shown, List.filterMap_cons, List.filterMap_map, Function.comp_def, noText,
      List.length_cons, List.replicate_succ, List.cons_append, List.nil_append]

end Conversation

def Ending.lastTexts : Ending → List String
  | .endOfInput | .interrupt => [""]
  | .failure _ => []

def Ending.failure? : Ending → Option Failure
  | .endOfInput | .interrupt => none
  | .failure reason => some reason

def closing (setup : Setup) (ending : Ending) (state : State) : Conversation :=
  { state
    screen := .prompt setup.settings.prompt :: ending.lastTexts.map .text
    failure := ending.failure? }

theorem prompts_closing (setup : Setup) (ending : Ending) (state : State) :
    (closing setup ending state).prompts = [setup.settings.prompt] := by
  cases ending <;> rfl

theorem output_closing (setup : Setup) (ending : Ending) (state : State) :
    (closing setup ending state).output = ending.lastTexts := by
  cases ending <;> rfl

variable {setup : Setup} {ending : Ending} {state : State} {line : String}
  {lines before after : List String}

theorem passes_nil : Passes setup state [] := by
  rw [Passes, replies]
  exact ⟨List.forall_mem_nil _, List.forall_mem_nil _⟩

theorem passes_cons :
    Passes setup state (line :: lines) ↔
      ¬ IsFarewell line ∧ (reply setup state line).failure = none ∧
        Passes setup (reply setup state line).state lines := by
  simp only [Passes, replies_cons, List.forall_mem_cons]
  exact and_and_and_comm.trans and_assoc

theorem open_reply (isOpen : state.halted = false) (stays : ¬ IsFarewell line) :
    (reply setup state line).state.halted = false := by
  rw [← Bool.not_eq_true, halted_reply_iff, isOpen]
  simpa using stays

theorem open_stateAfter (isOpen : state.halted = false) (passes : Passes setup state lines) :
    (stateAfter setup state lines).halted = false := by
  induction lines generalizing state with
  | nil => exact isOpen
  | cons line lines ih =>
    obtain ⟨stays, _, others⟩ := passes_cons.mp passes
    rw [stateAfter_cons]
    exact ih (open_reply isOpen stays) others

theorem converse_cons (isOpen : state.halted = false) (lines : List String) :
    converse setup ending state (line :: lines) =
      (match (reply setup state line).failure with
        | some failure =>
          ({ state := (reply setup state line).state, unread := lines, failure := some failure } :
            Conversation)
        | none => converse setup ending (reply setup state line).state lines).after
          setup.settings.prompt (reply setup state line) := by
  cases failed : (reply setup state line).failure with
  | none => simp only [converse, isOpen, Bool.false_eq_true, if_false, failed]
  | some failure => simp only [converse, isOpen, Bool.false_eq_true, if_false, failed]

theorem converse_append (isOpen : state.halted = false) (passes : Passes setup state before)
    (after : List String) :
    converse setup ending state (before ++ after) =
      (converse setup ending (stateAfter setup state before) after).afterAll
        setup.settings.prompt (replies setup state before) := by
  induction before generalizing state with
  | nil => rfl
  | cons line before ih =>
    obtain ⟨stays, fine, others⟩ := passes_cons.mp passes
    rw [List.cons_append, converse_cons isOpen, fine, replies_cons, stateAfter_cons]
    simp only [ih (open_reply isOpen stays) others, Conversation.after_afterAll]

theorem converse_nil (isOpen : state.halted = false) :
    converse setup ending state [] = closing setup ending state := by
  cases ending <;> simp [converse, isOpen, closing, Ending.lastTexts, Ending.failure?]

theorem converse_through (ending : Ending) (isOpen : state.halted = false)
    (passes : Passes setup state lines) :
    converse setup ending state lines =
      (closing setup ending (stateAfter setup state lines)).afterAll setup.settings.prompt
        (replies setup state lines) := by
  rw [← converse_nil (open_stateAfter isOpen passes), ← converse_append isOpen passes,
    List.append_nil]

/-- The line is the last one: it asks to leave, or its reply fails. -/
def Stops (setup : Setup) (state : State) (line : String) : Prop :=
  IsFarewell line ∨ (reply setup state line).failure ≠ none

/-- After the last line none is read, whatever is left. -/
theorem converse_stops (ending : Ending) (isOpen : state.halted = false)
    (passes : Passes setup state before)
    (stops : Stops setup (stateAfter setup state before) line) (after : List String) :
    converse setup ending state (before ++ line :: after) =
      ({ state := stateAfter setup state (before ++ [line])
         unread := after
         failure := (reply setup (stateAfter setup state before) line).failure } :
        Conversation).afterAll setup.settings.prompt (replies setup state (before ++ [line])) := by
  have still := open_stateAfter isOpen passes
  rw [converse_append isOpen passes, converse_cons still, replies_concat, stateAfter_concat,
    ← Conversation.afterAll_after]
  cases failed : (reply setup (stateAfter setup state before) line).failure with
  | some failure => simp only
  | none =>
    have leaves := stops.resolve_right (absurd failed)
    have halted : (reply setup (stateAfter setup state before) line).state.halted = true :=
      halted_reply_iff.mpr (.inr leaves)
    cases after with
    | nil => simp only [converse, halted, if_true]
    | cons => simp only [converse, halted, if_true]

inductive Course (setup : Setup) (state : State) : List String → Prop where
  | through {lines : List String} (passes : Passes setup state lines) : Course setup state lines
  | stops (before : List String) (line : String) (passes : Passes setup state before)
      (stops : Stops setup (stateAfter setup state before) line) (after : List String) :
      Course setup state (before ++ line :: after)

theorem Course.cons (stays : ¬ IsFarewell line) (fine : (reply setup state line).failure = none)
    (others : Course setup (reply setup state line).state lines) :
    Course setup state (line :: lines) := by
  cases others with
  | through passes => exact .through (passes_cons.mpr ⟨stays, fine, passes⟩)
  | stops before last passes stops after =>
    rw [← stateAfter_cons] at stops
    exact .stops (line :: before) last (passes_cons.mpr ⟨stays, fine, passes⟩) stops after

theorem course (setup : Setup) (state : State) (lines : List String) :
    Course setup state lines := by
  induction lines generalizing state with
  | nil => exact .through passes_nil
  | cons line lines ih =>
    by_cases stops : Stops setup state line
    · exact .stops [] line passes_nil stops lines
    · obtain ⟨stays, fine⟩ := not_or.mp stops
      exact .cons stays (Classical.not_not.mp fine) (ih _)

end ArrowGraph.Console
