import ArrowGraph.Proofs.Command.Fulfilled
import ArrowGraph.Proofs.Session.Words

namespace ArrowGraph

open Statement (performEach)

namespace Graph

variable {g h : Graph}

theorem later_perform {s : Statement} (proper : g.Proper)
    (shows : ∀ name ∈ s.givenNames, name ≠ "") : g.Later (s.perform g).graph := by
  refine later_of_strokes proper (strokes_perform s g) ?_
  intro k a allowed named
  exact shows "" (allowed.name "" named) rfl

theorem later_apply {c : Command} (proper : g.Proper) (shows : ∀ name ∈ c.givenNames, name ≠ "") :
    g.Later (c.apply g).graph := by
  refine later_of_strokes proper (strokes_apply c g) ?_
  rintro k a ⟨s, member, allowed⟩ named
  exact shows "" (List.mem_flatMap.mpr ⟨s, member, allowed.name "" named⟩) rfl

theorem performEach_of_holds {ss : List Statement} (legal : g.WellFormed)
    (holds : ∀ s ∈ ss, s.Holds g) : performEach g ss = (g, .ok true) := by
  induction ss with
  | nil => rfl
  | cons s ss ih =>
    obtain ⟨report, first, good⟩ := idle_perform legal (holds s (List.mem_cons_self ..))
    have others := ih fun t member => holds t (List.mem_cons_of_mem _ member)
    rw [performEach_ok (congrArg Effect.outcome first), first, others, good]
    rfl

theorem holds_of_performEach {ss : List Statement} (proper : g.Proper)
    (shows : ∀ s ∈ ss, ∀ name ∈ s.givenNames, name ≠ "")
    (done : performEach g ss = (h, .ok true)) : g.Later h ∧ ∀ s ∈ ss, s.Holds h := by
  induction ss generalizing g with
  | nil =>
    cases done
    exact ⟨.refl proper, nofun⟩
  | cons s ss ih =>
    have shown := shows s (List.mem_cons_self ..)
    have first := later_perform proper shown
    cases outcome : (s.perform g).outcome with
    | error e =>
      rw [performEach_error outcome] at done
      cases done
    | ok report =>
      rw [performEach_ok outcome] at done
      cases rest : performEach (s.perform g).graph ss with
      | mk k went =>
        rw [rest] at done
        cases went with
        | error e => cases done
        | ok well =>
          obtain ⟨rfl, both⟩ := Prod.mk.inj done
          have both : (report.ok && well) = true := Except.ok.inj both
          obtain ⟨good, rfl⟩ := Bool.and_eq_true_iff.mp both
          obtain ⟨later, others⟩ :=
            ih first.now (fun t member => shows t (List.mem_cons_of_mem _ member)) rest
          have here := holds_of_perform proper shown ⟨report, outcome, good⟩
          exact ⟨first.trans later, List.forall_mem_cons.mpr ⟨later.holds shown here, others⟩⟩

end Graph

/-- The step does not forget the arrows, and it gives no empty names. -/
def Step.Keeps : Step → Prop
  | .apply c => ∀ name ∈ c.givenNames, name ≠ ""
  | .evaluate _ => True
  | .reset => False

namespace Graph

variable {g : Graph}

theorem later_after {step : Step} (proper : g.Proper) (keeps : step.Keeps) :
    g.Later (step.after g) := by
  cases step with
  | apply c => exact later_apply proper keeps
  | reset => cases keeps
  | evaluate line =>
    rw [Step.after]
    rcases evaluate_graph_cases g line with same | ⟨c, read, applied⟩
    · rw [same]
      exact .refl proper
    · rw [applied]
      refine later_apply proper ?_
      rintro _ given rfl
      obtain ⟨s, member, given⟩ := List.mem_flatMap.mp given
      have label := List.mem_flatMap.mpr ⟨s, member, s.givenNames_subset given⟩
      exact (Token.isLabel_of_mem_labelsOf (Command.labels_ofLine read label)).1 rfl

theorem later_follow {steps : List Step} (proper : g.Proper)
    (keeps : ∀ step ∈ steps, step.Keeps) : g.Later (g.follow steps) := by
  induction steps generalizing g with
  | nil => exact .refl proper
  | cons step steps ih =>
    have first := later_after proper (keeps step (List.mem_cons_self ..))
    exact first.trans (ih first.now fun other member => keeps other (List.mem_cons_of_mem _ member))

/-- A command that has succeeded succeeds again after any further steps, and changes nothing. -/
theorem success_lasts {c : Command} {steps : List Step} (proper : g.Proper)
    (shows : ∀ name ∈ c.givenNames, name ≠ "") (success : Succeeds (c.apply g).outcome)
    (keeps : ∀ step ∈ steps, step.Keeps) :
    Succeeds (c.apply ((c.apply g).graph.follow steps)).outcome ∧
      (c.apply ((c.apply g).graph.follow steps)).graph = (c.apply g).graph.follow steps := by
  have done : performEach g c.statements = ((c.apply g).graph, .ok true) := by
    rw [Command.apply_graph, ← Command.succeeds_apply_iff.mp success]
  have shown : ∀ s ∈ c.statements, ∀ name ∈ s.givenNames, name ≠ "" :=
    fun s member name given => shows name (List.mem_flatMap.mpr ⟨s, member, given⟩)
  obtain ⟨first, holds⟩ := holds_of_performEach proper shown done
  have later := later_follow first.now keeps
  have again := performEach_of_holds later.now.toWellFormed
    fun s member => later.holds (shown s member) (holds s member)
  constructor
  · rw [Command.succeeds_apply_iff, again]
  · rw [Command.apply_graph, again]

def path : Graph :=
  ⟨[⟨"b", "c", some "g"⟩, ⟨"a", "b", some "f"⟩]⟩

/-- The composite is drawn without a name; then it is given one, a loop is drawn, and a line
fails. -/
theorem success_lasts_path :
    let c : Command := .batch [.single (.compose "g" "f"), .batch [.single (.describe "a")]]
    let steps : List Step :=
      [.apply (.single (.composeNamed "h" "g" "f")), .evaluate "c -> c", .evaluate "f -> c"]
    path.Proper ∧ (∀ name ∈ c.givenNames, name ≠ "") ∧ Succeeds (c.apply path).outcome ∧
      (∀ step ∈ steps, step.Keeps) ∧
      (c.apply path).graph.follow steps =
        ⟨[⟨"b", "c", some "g"⟩, ⟨"a", "b", some "f"⟩, ⟨"a", "c", some "h"⟩, ⟨"c", "c", none⟩]⟩ ∧
      Succeeds (c.apply ((c.apply path).graph.follow steps)).outcome ∧
      (c.apply ((c.apply path).graph.follow steps)).graph = (c.apply path).graph.follow steps := by
  intro c steps
  have proper : path.Proper := ⟨⟨by decide, by decide, by decide⟩, by decide⟩
  have shows : ∀ name ∈ c.givenNames, name ≠ "" := nofun
  have success : Succeeds (c.apply path).outcome := ⟨_, rfl, rfl⟩
  have keeps : ∀ step ∈ steps, step.Keeps := by
    simp [steps, Step.Keeps, Command.givenNames, Command.statements, Statement.givenNames]
  refine ⟨proper, shows, success, keeps, ?_, success_lasts proper shows success keeps⟩
  decide +kernel

end Graph
end ArrowGraph
