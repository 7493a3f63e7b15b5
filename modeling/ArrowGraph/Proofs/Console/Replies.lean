import ArrowGraph.Console.Conversation
import Mathlib.Tactic.SplitIfs

namespace ArrowGraph.Console

def directive? (line : String) : Option String :=
  if (Text.strip line).toList.head? = some '.' then some (directiveWord (Text.strip line)) else none

def IsFarewell (line : String) : Prop :=
  directive? line = some ".exit" ∨ directive? line = some ".quit"

instance (line : String) : Decidable (IsFarewell line) :=
  inferInstanceAs (Decidable (_ ∨ _))

/-- The replies to lines, each in the state that the one before has left. -/
def replies (setup : Setup) (state : State) : List String → List Reply
  | [] => []
  | line :: lines =>
    let first := reply setup state line
    first :: replies setup first.state lines

def stateAfter (setup : Setup) (state : State) (lines : List String) : State :=
  lines.foldl (fun state line => (reply setup state line).state) state

variable {setup : Setup} {state : State} {line word : String} {lines : List String}
  {failure : Failure}

theorem replies_cons (setup : Setup) (state : State) (line : String) (lines : List String) :
    replies setup state (line :: lines) =
      reply setup state line :: replies setup (reply setup state line).state lines := by
  rw [replies]

theorem stateAfter_cons (setup : Setup) (state : State) (line : String) (lines : List String) :
    stateAfter setup state (line :: lines) =
      stateAfter setup (reply setup state line).state lines := by
  rw [stateAfter, List.foldl_cons, ← stateAfter]

theorem replies_append (setup : Setup) (state : State) (before after : List String) :
    replies setup state (before ++ after) =
      replies setup state before ++ replies setup (stateAfter setup state before) after := by
  induction before generalizing state with
  | nil => rfl
  | cons line before ih =>
    rw [List.cons_append, replies_cons, replies_cons, ih, stateAfter_cons, List.cons_append]

theorem replies_concat (setup : Setup) (state : State) (before : List String) (line : String) :
    replies setup state (before ++ [line]) =
      replies setup state before ++ [reply setup (stateAfter setup state before) line] := by
  rw [replies_append, replies_cons, replies]

theorem mem_replies (setup : Setup) (state : State) (before : List String) (line : String)
    (after : List String) :
    reply setup (stateAfter setup state before) line ∈
      replies setup state (before ++ line :: after) := by
  rw [replies_append, replies_cons]
  exact List.mem_append_right _ (List.mem_cons_self ..)

theorem length_replies (setup : Setup) (state : State) (lines : List String) :
    (replies setup state lines).length = lines.length := by
  induction lines generalizing state with
  | nil => rfl
  | cons line lines ih => rw [replies_cons, List.length_cons, List.length_cons, ih]

theorem stateAfter_concat (setup : Setup) (state : State) (before : List String) (line : String) :
    stateAfter setup state (before ++ [line]) =
      (reply setup (stateAfter setup state before) line).state := by
  simp only [stateAfter, List.foldl_append, List.foldl_cons, List.foldl_nil]

theorem reply_of_directive (setup : Setup) (state : State) (asked : directive? line = some word) :
    directiveWord (Text.strip line) = word ∧
      reply setup state line = directiveReply setup state.next (Text.strip line) := by
  rw [directive?] at asked
  split at asked
  · rename_i dot
    refine ⟨Option.some.inj asked, ?_⟩
    rw [reply]
    split
    · simp_all
    · rfl
    · rename_i other
      obtain ⟨rest, spelled⟩ := List.head?_eq_some_iff.mp dot
      exact absurd spelled (other rest)
  · cases asked

theorem reply_of_no_directive (unasked : directive? line = none) :
    reply setup state line =
      if Text.strip line = "" then { state := state.next }
      else statementReply setup state.next (Text.strip line) := by
  rw [directive?] at unasked
  split at unasked
  · cases unasked
  · rename_i noDot
    rw [reply]
    split
    · rename_i empty
      rw [if_pos (String.toList_eq_nil_iff.mp empty)]
    · rename_i dot
      exact absurd (by rw [dot]; rfl) noDot
    · rename_i nonempty _
      rw [if_neg fun empty => nonempty (by rw [empty]; rfl)]

theorem ofWord?_eq_leave_iff :
    Directive.ofWord? word = some .leave ↔ word = ".exit" ∨ word = ".quit" := by
  unfold Directive.ofWord?
  split <;> simp_all

theorem state_renderReply (setup : Setup) (state : State) :
    (renderReply setup state).state = state := by
  rw [renderReply]
  split_ifs
  · rfl
  · rfl
  · split <;> rfl

theorem halted_directiveReply_iff :
    (directiveReply setup state line).state.halted = true ↔
      state.halted = true ∨ Directive.ofWord? (directiveWord line) = some .leave := by
  simp only [directiveReply]
  split <;> simp_all [state_renderReply]

theorem answered_directiveReply (setup : Setup) (state : State) (line : String) :
    (directiveReply setup state line).state.answered = state.answered := by
  simp only [directiveReply]
  split <;> simp only [state_renderReply]

theorem statementReply_quiet (setup : Setup) (state : State) (line : String) :
    (statementReply setup state line).state.halted = state.halted ∧
      (statementReply setup state line).state.answered = state.answered ∧
      (statementReply setup state line).failure = none := by
  simp only [statementReply]
  split <;> exact ⟨rfl, rfl, rfl⟩

/-- Every line counts, whatever it asks for. -/
theorem answered_reply (setup : Setup) (state : State) (line : String) :
    (reply setup state line).state.answered = state.answered + 1 := by
  cases asked : directive? line with
  | none =>
    rw [reply_of_no_directive asked]
    split_ifs
    · rfl
    · exact (statementReply_quiet ..).2.1
  | some word =>
    rw [(reply_of_directive setup state asked).2, answered_directiveReply]
    rfl

/-- The console is halted by a line that asks for it, and by no other. -/
theorem halted_reply_iff :
    (reply setup state line).state.halted = true ↔ state.halted = true ∨ IsFarewell line := by
  rw [IsFarewell]
  cases asked : directive? line with
  | none =>
    rw [reply_of_no_directive asked]
    split_ifs <;> simp [statementReply_quiet]
  | some word =>
    obtain ⟨same, answered⟩ := reply_of_directive setup state asked
    rw [answered, halted_directiveReply_iff, state.next_halted, same, ofWord?_eq_leave_iff,
      Option.some.injEq, Option.some.injEq]

end ArrowGraph.Console
