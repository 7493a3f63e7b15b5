import ArrowGraph.Proofs.Console.Replies
import ArrowGraph.Proofs.Session.Parts
import ArrowGraph.Proofs.Text.Joined
import ArrowGraph.Script
import Mathlib.Data.List.ReduceOption

/-! Scripts and consoles. Both give each line that is not blank its turn, which is to evaluate the
text without the blanks around it. They differ in how they warn of a failure, and in nothing else
that a statement comes to. -/
namespace ArrowGraph

theorem Text.strip_eq_empty_iff {line : String} :
    Text.strip line = "" ↔ Text.isBlankLine line = true := by
  have trimmed : Text.strip line = "" ↔ Text.trim line.toList = [] := by
    rw [Text.strip, ← String.toList_eq_nil_iff, String.toList_ofList]
  rw [trimmed, Text.trim, Text.trimEnd, List.reverse_eq_nil_iff, List.dropWhile_eq_nil_iff,
    Text.isBlankLine, List.all_eq_true]
  simp only [List.mem_reverse]
  constructor
  · intro blank c member
    rw [← List.takeWhile_append_dropWhile (p := Text.isBlank) (l := line.toList)] at member
    rcases List.mem_append.mp member with before | after
    · exact List.mem_takeWhile_imp before
    · exact blank c after
  · intro blank c member
    exact blank c ((List.dropWhile_sublist _).mem member)

/-- The turn of a line: its number, the text that is evaluated, and what that comes to. -/
structure Turn where
  number : Nat
  text : String
  evaluation : Evaluation

namespace Turn

def ofLine (mishap : Mishap) (g : Graph) (number : Nat) (line : String) : Turn :=
  ⟨number, Text.strip line, g.evaluateUnless (mishap.befalls number) (Text.strip line)⟩

def written (turn : Turn) : String :=
  match turn.evaluation.outcome with
  | .ok report => report.display
  | .error failure => Script.warning turn.number failure

def answered (turn : Turn) : String :=
  match turn.evaluation.outcome with
  | .ok report => report.display
  | .error failure => Console.warning failure

def report? (turn : Turn) : Option Report :=
  turn.evaluation.outcome.toOption

/-- What a console notes in this turn. A script does not note that a failure is a foreign one. -/
def noted (turn : Turn) : List Event :=
  turn.evaluation.events ++
    match turn.evaluation.outcome with
    | .ok _ => []
    | .error failure => if failure.kind.isNative then [] else [.unexpected turn.text]

def failed (turn : Turn) : Bool :=
  !turn.report?.any Report.ok

end Turn

/-- The turns of lines of which the first has the given number; a blank line has none. -/
def turns (mishap : Mishap) (g : Graph) (number : Nat) : List String → List (Option Turn)
  | [] => []
  | line :: lines =>
    if Text.isBlankLine line then none :: turns mishap g (number + 1) lines
    else
      let turn := Turn.ofLine mishap g number line
      some turn :: turns mishap turn.evaluation.graph (number + 1) lines

open Console (Setup State Reply reply replies stateAfter)

variable {mishap : Mishap} {g : Graph} {number count : Nat} {line : String} {lines : List String}
  {setup : Setup} {state : State}

theorem turns_blank (blank : Text.isBlankLine line = true) :
    turns mishap g number (line :: lines) = none :: turns mishap g (number + 1) lines := by
  rw [turns, if_pos blank]

theorem turns_told (told : Text.isBlankLine line = false) :
    turns mishap g number (line :: lines) =
      some (Turn.ofLine mishap g number line) ::
        turns mishap (Turn.ofLine mishap g number line).evaluation.graph (number + 1) lines := by
  rw [turns, told, if_neg Bool.false_ne_true]

theorem text_turns (mishap : Mishap) (g : Graph) (number : Nat) (lines : List String) :
    (turns mishap g number lines).map (Option.map Turn.text) =
      lines.map fun line => if Text.isBlankLine line then none else some (Text.strip line) := by
  induction lines generalizing g number with
  | nil => rfl
  | cons line lines ih =>
    cases told : Text.isBlankLine line with
    | true => simp [turns_blank told, told, ih]
    | false => simp [turns_told told, told, ih, Turn.ofLine]

theorem Text.strip_ne_empty (told : Text.isBlankLine line = false) : Text.strip line ≠ "" := by
  intro empty
  rw [Text.strip_eq_empty_iff.mp empty] at told
  cases told

namespace Script

theorem runLine_blank (blank : Text.isBlankLine line = true) :
    runLine mishap g number line = { graph := g } := by
  rw [runLine, Text.strip_eq_empty_iff.mpr blank]
  rfl

theorem runLine_told (told : Text.isBlankLine line = false)
    (noRemark : (Text.strip line).toList.head? ≠ some '#') :
    runLine mishap g number line =
      { graph := (Turn.ofLine mishap g number line).evaluation.graph
        output := [(Turn.ofLine mishap g number line).written]
        events := (Turn.ofLine mishap g number line).evaluation.events
        failures := (Turn.ofLine mishap g number line).failed.toNat } := by
  have taken : isPassedOver (Text.strip line) = false := by
    rw [isPassedOver]
    split
    · rename_i empty
      exact absurd (String.toList_eq_nil_iff.mp empty) (Text.strip_ne_empty told)
    · rename_i remark
      exact absurd (by rw [remark]; rfl) noRemark
    · rfl
  rw [runLine, taken]
  simp only [Bool.false_eq_true, if_false, Turn.ofLine, Turn.written, Turn.failed, Turn.report?]
  cases (g.evaluateUnless (mishap.befalls number) (Text.strip line)).outcome with
  | ok report => rcases report with ⟨_ | _, message⟩ <;> rfl
  | error failure => rfl

theorem runLines_concat_empty (mishap : Mishap) (g : Graph) (number : Nat) (lines : List String) :
    runLines mishap g number (lines ++ [""]) = runLines mishap g number lines := by
  induction lines generalizing g number with
  | nil => rfl
  | cons line lines ih => rw [List.cons_append, runLines, ih, ← runLines]

theorem runLines_joined (unbroken : ∀ line ∈ lines, Text.Unbroken line.toList)
    (mishap : Mishap) (g : Graph) :
    runLines mishap g 1
        (Text.lines (String.ofList (Text.unifyBreaks ("\n".intercalate lines).toList))) =
      runLines mishap g 1 lines := by
  rcases Text.lines_joined unbroken with same | short
  · exact congrArg _ same.symm
  · rw [← runLines_concat_empty]
    exact congrArg _ short.symm

theorem runLines_turns (mishap : Mishap) (g : Graph) (number : Nat)
    (noRemark : ∀ line ∈ lines, (Text.strip line).toList.head? ≠ some '#') :
    let done := runLines mishap g number lines
    let taken := (turns mishap g number lines).reduceOption
    done.output = taken.map Turn.written ∧
      done.events = taken.flatMap (fun turn => turn.evaluation.events) ∧
      done.failures = taken.countP Turn.failed := by
  induction lines generalizing g number with
  | nil => exact ⟨rfl, rfl, rfl⟩
  | cons line lines ih =>
    obtain ⟨here, later⟩ := List.forall_mem_cons.mp noRemark
    simp only [runLines, Progress.after]
    cases told : Text.isBlankLine line with
    | true =>
      obtain ⟨output, events, failures⟩ := ih g (number + 1) later
      rw [runLine_blank told, turns_blank told, List.reduceOption_cons_of_none]
      exact ⟨output, events, (Nat.zero_add _).trans failures⟩
    | false =>
      rw [runLine_told told here, turns_told told, List.reduceOption_cons_of_some]
      generalize Turn.ofLine mishap g number line = turn
      obtain ⟨output, events, failures⟩ := ih turn.evaluation.graph (number + 1) later
      rw [output, events, failures, List.countP_cons]
      refine ⟨rfl, rfl, ?_⟩
      cases turn.failed with
      | false => exact Nat.zero_add _
      | true => exact Nat.add_comm ..

end Script

namespace Console

theorem reply_blank_line (blank : Text.isBlankLine line = true) :
    reply setup state line = { state := state.next } :=
  reply_blank (Text.strip_eq_empty_iff.mpr blank)

theorem place_next (setup : Setup) (line : String) (place : count + number = state.answered + 1) :
    count + (number + 1) = (reply setup state line).state.answered + 1 := by
  rw [answered_reply, ← place, Nat.add_assoc]

/-- A line that is neither blank nor a directive takes its turn, from whichever line its number is
counted. -/
theorem reply_told (setup : Setup) (place : count + number = state.answered + 1)
    (told : Text.isBlankLine line = false)
    (noDirective : (Text.strip line).toList.head? ≠ some '.') :
    let turn := Turn.ofLine (setup.mishap.after count) state.graph number line
    let answer := reply setup state line
    answer.state = { state.next with graph := turn.evaluation.graph } ∧
      answer.output = [turn.answered] ∧ answer.events = turn.noted ∧
      answer.report = turn.report? ∧ answer.failure = none := by
  have unasked : directive? line = none := by rw [directive?, if_neg noDirective]
  have same : reply setup state line = statementReply setup state.next (Text.strip line) :=
    (reply_of_no_directive unasked).trans (if_neg (Text.strip_ne_empty told))
  have befalls : (setup.mishap.after count).befalls number =
      setup.mishap.befalls state.next.answered := congrArg setup.mishap.befalls place
  rw [same]
  simp only [statementReply, Turn.ofLine, Turn.answered, Turn.noted, Turn.report?, befalls,
    state.next_graph]
  cases (state.graph.evaluateUnless (setup.mishap.befalls state.next.answered)
    (Text.strip line)).outcome with
  | ok report => exact ⟨rfl, rfl, (List.append_nil _).symm, rfl, rfl⟩
  | error failure => exact ⟨rfl, rfl, rfl, rfl, rfl⟩

/-- The replies to lines of which none is a directive are those of their turns. -/
theorem replies_turns (setup : Setup) (place : count + number = state.answered + 1)
    (noDirective : ∀ line ∈ lines, (Text.strip line).toList.head? ≠ some '.') :
    let answers := replies setup state lines
    let turns := turns (setup.mishap.after count) state.graph number lines
    answers.map Reply.output = turns.map (fun turn => (turn.map Turn.answered).toList) ∧
      answers.map Reply.events = turns.map (fun turn => (turn.map Turn.noted).getD []) ∧
      answers.map Reply.report = turns.map (fun turn => turn.bind Turn.report?) ∧
      (∀ answer ∈ answers, answer.failure = none) ∧
      (lines.zip answers).countP (fun (line, answer) =>
        !Text.isBlankLine line && !answer.report.any Report.ok) =
          turns.reduceOption.countP Turn.failed := by
  induction lines generalizing state number with
  | nil => exact ⟨rfl, rfl, rfl, List.forall_mem_nil _, rfl⟩
  | cons line lines ih =>
    obtain ⟨here, later⟩ := List.forall_mem_cons.mp noDirective
    have next := place_next setup line place
    cases told : Text.isBlankLine line with
    | true =>
      obtain ⟨output, events, reports, sound, failed⟩ := ih next later
      rw [reply_blank_line told] at output events reports sound failed
      rw [replies_cons, reply_blank_line told, turns_blank told]
      simp only [List.reduceOption_cons_of_none, List.map_cons, List.zip_cons_cons,
        List.countP_cons, List.forall_mem_cons, told, output, events, reports, failed]
      exact ⟨rfl, rfl, rfl, ⟨trivial, sound⟩, rfl⟩
    | false =>
      obtain ⟨left, answered, noted, report, fine⟩ := reply_told setup place told here
      rw [replies_cons, turns_told told]
      -- from here on the reply is known only by what it has of its turn
      generalize reply setup state line = answer at *
      generalize Turn.ofLine (setup.mishap.after count) state.graph number line = turn at *
      obtain ⟨output, events, reports, sound, failed⟩ := ih next later
      rw [left] at output events reports sound failed ⊢
      simp only [List.reduceOption_cons_of_some, List.map_cons, List.zip_cons_cons,
        List.countP_cons, List.forall_mem_cons, told, output, events, reports, failed, answered,
        noted, report, fine, Turn.failed]
      exact ⟨rfl, rfl, rfl, ⟨trivial, sound⟩, rfl⟩

end Console

theorem graph_runLines (place : count + number = state.answered + 1)
    (plain : ∀ line ∈ lines,
      (Text.strip line).toList.head? ≠ some '.' ∧ (Text.strip line).toList.head? ≠ some '#') :
    (Script.runLines (setup.mishap.after count) state.graph number lines).graph =
      (stateAfter setup state lines).graph := by
  induction lines generalizing state number with
  | nil => rfl
  | cons line lines ih =>
    obtain ⟨⟨noDirective, noRemark⟩, later⟩ := List.forall_mem_cons.mp plain
    have step : (Script.runLine (setup.mishap.after count) state.graph number line).graph =
        (reply setup state line).state.graph := by
      cases told : Text.isBlankLine line with
      | true => rw [Script.runLine_blank told, Console.reply_blank_line told, State.next_graph]
      | false =>
        have answered := Console.reply_told setup place told noDirective
        rw [Script.runLine_told told noRemark, answered.1]
    simp only [Script.runLines, Script.Progress.after, Console.stateAfter_cons, step]
    exact ih (Console.place_next setup line place) later

/-- A script and a console agree on lines of which none is a remark or a directive, when the same
befalls the lines of the one and those that the other has still to answer. Each gives the lines that
are not blank their turns, on the same texts and with the same graphs; both answer a report in the
same way and warn of a failure once. The script counts the lines of which the console has no report
of a success, and ends with the status 1 when there are any. -/
theorem script_agrees_with_console (setup : Setup) (state : State) (title : String)
    (unbroken : ∀ line ∈ lines, Text.Unbroken line.toList)
    (plain : ∀ line ∈ lines,
      (Text.strip line).toList.head? ≠ some '.' ∧ (Text.strip line).toList.head? ≠ some '#') :
    let mishap := setup.mishap.after state.answered
    let run := Script.run mishap title ("\n".intercalate lines) state.graph
    let answers := replies setup state lines
    let turns := turns mishap state.graph 1 lines
    let failed := (lines.zip answers).countP fun (line, answer) =>
      !Text.isBlankLine line && !answer.report.any Report.ok
    turns.map (Option.map Turn.text) =
      lines.map (fun line => if Text.isBlankLine line then none else some (Text.strip line)) ∧
    run.graph = (stateAfter setup state lines).graph ∧
    run.output = ["─── Running: " ++ title ++ " ───"] ++ turns.reduceOption.map Turn.written ++
      ["─── " ++ toString run.graph.objects.length ++ " objects, " ++
        toString run.graph.arrows.length ++ " arrows ───"] ++
      (if failed = 0 then [] else ["✘ " ++ toString failed ++ " line(s) failed"]) ∧
    run.events = turns.reduceOption.flatMap (fun turn => turn.evaluation.events) ∧
    run.status = (if failed = 0 then 0 else 1) ∧
    answers.map Reply.output = turns.map (fun turn => (turn.map Turn.answered).toList) ∧
    answers.map Reply.events = turns.map (fun turn => (turn.map Turn.noted).getD []) ∧
    answers.map Reply.report = turns.map (fun turn => turn.bind Turn.report?) ∧
    ∀ answer ∈ answers, answer.failure = none := by
  intro mishap run answers turns failed
  obtain ⟨answered, noted, reports, sound, counted⟩ :=
    Console.replies_turns setup rfl fun line member => (plain line member).1
  obtain ⟨written, events, failures⟩ :=
    Script.runLines_turns mishap state.graph 1 fun line member => (plain line member).2
  have failures : (Script.runLines mishap state.graph 1 lines).failures = failed :=
    failures.trans counted.symm
  have done := Script.runLines_joined unbroken mishap state.graph
  refine ⟨text_turns .., ?_, ?_, ?_, ?_, answered, noted, reports, sound⟩
  · simp only [run, Script.run, done, mishap, graph_runLines rfl plain]
  · simp only [run, Script.run, done, written, failures, turns]
  · simp only [run, Script.run, done, events, turns]
  · simp only [run, Script.run, done, failures]

/-- A drawing, a blank line, a route that is missing, a line that a mishap befalls in its first place
only, a composition that breaks down after an arrow is drawn, and an empty line at the end. The
console has answered a line before. -/
theorem script_agrees_with_console_broken :
    let lost := Failure.given (.foreign "ValueError") "lost"
    let setup : Setup := { mishap := ⟨fun number _ => if number = 5 then some lost else none⟩ }
    let state : State := { answered := 1 }
    let lines := [" f: a -> b", "\t", "a -- z", "c ", "g: c -> d; f . g", "c", ""]
    let run := Script.run (setup.mishap.after 1) "main" ("\n".intercalate lines) .empty
    let drawn : Graph := ⟨[⟨"a", "b", some "f"⟩, ⟨"c", "d", some "g"⟩]⟩
    (∀ line ∈ lines, Text.Unbroken line.toList) ∧
    (∀ line ∈ lines,
      (Text.strip line).toList.head? ≠ some '.' ∧ (Text.strip line).toList.head? ≠ some '#') ∧
    run.graph = drawn ∧ (stateAfter setup state lines).graph = drawn ∧ run.status = 1 ∧
    run.output = ["─── Running: main ───", "  ✔ Drew arrow f: a -> b", "  ✘ Nothing named z",
      "  ⚠ L4: Error: ValueError: lost",
      "  ⚠ L5: CompositionError: Cannot compose f: a -> b after g: c -> d: d is not a",
      "  ✔ c is an object with arrows: g: c -> d",
      "─── 4 objects, 2 arrows ───", "✘ 3 line(s) failed"] ∧
    (replies setup state lines).map Reply.output = [["  ✔ Drew arrow f: a -> b"], [],
      ["  ✘ Nothing named z"], ["  ⚠ Error: ValueError: lost"],
      ["  ⚠ Controller Error: Cannot compose f: a -> b after g: c -> d: d is not a"],
      ["  ✔ c is an object with arrows: g: c -> d"], []] := by
  intro lost setup state lines run drawn
  have unbroken : ∀ line ∈ lines, Text.Unbroken line.toList := by decide +kernel
  have plain : ∀ line ∈ lines,
      (Text.strip line).toList.head? ≠ some '.' ∧ (Text.strip line).toList.head? ≠ some '#' := by
    decide +kernel
  obtain ⟨_, graph, written, _, status, answered, _⟩ :=
    script_agrees_with_console setup state "main" unbroken plain
  have final : (stateAfter setup state lines).graph = drawn := by decide +kernel
  exact ⟨unbroken, plain, graph.trans final, final, status.trans (by decide +kernel),
    written.trans (by decide +kernel), answered.trans (by decide +kernel)⟩

end ArrowGraph
