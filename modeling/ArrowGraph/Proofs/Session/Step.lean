import ArrowGraph.Proofs.Command.Strokes
import ArrowGraph.Proofs.Graph.WellFormed
import ArrowGraph.Session

namespace ArrowGraph

theorem Command.ofLine_eq_ok_iff {line : String} {c : Command} :
    (ofLine line).command = .ok c ↔
      ∃ ts e, Token.scan line = .ok ts ∧ (Expr.read ts).result = .ok e ∧ ofExpr e = .ok c := by
  unfold ofLine
  cases Token.scan line with
  | error _ => simp
  | ok ts =>
    cases read : (Expr.read ts).result with
    | error _ => simp [read]
    | ok e => cases meant : ofExpr e <;> simp [read, meant]

inductive Step where
  | apply (command : Command)
  | evaluate (line : String)
  | reset

def Step.after (g : Graph) : Step → Graph
  | .apply command => (command.apply g).graph
  | .evaluate line => (g.evaluate line).graph
  | .reset => .empty

namespace Graph

def follow (g : Graph) (steps : List Step) : Graph :=
  steps.foldl Step.after g

variable {g : Graph}

theorem evaluate_of_ofLine {line : String} {c : Command}
    (determined : (Command.ofLine line).command = .ok c) (g : Graph) :
    (g.evaluate line).graph = (c.apply g).graph ∧
      (g.evaluate line).outcome = (c.apply g).outcome.mapError .apply := by
  simp [evaluate, determined]

theorem evaluate_graph_cases (g : Graph) (line : String) :
    (g.evaluate line).graph = g ∨
      ∃ c, (Command.ofLine line).command = .ok c ∧ (g.evaluate line).graph = (c.apply g).graph := by
  cases read : (Command.ofLine line).command with
  | error failure => exact .inl (evaluate_graph_of_error read)
  | ok c => exact .inr ⟨c, rfl, (evaluate_of_ofLine read g).1⟩

theorem WellFormed.apply (legal : g.WellFormed) (c : Command) : (c.apply g).graph.WellFormed :=
  (strokes_apply c g).keep legal fun _ a known _ => known.attempt a

theorem WellFormed.evaluate (legal : g.WellFormed) (line : String) :
    (g.evaluate line).graph.WellFormed := by
  rcases evaluate_graph_cases g line with same | ⟨c, _, applied⟩
  · rwa [same]
  · rw [applied]
    exact legal.apply c

theorem WellFormed.after (legal : g.WellFormed) (step : Step) : (step.after g).WellFormed := by
  cases step with
  | apply c => exact legal.apply c
  | evaluate line => exact legal.evaluate line
  | reset => exact wellFormed_empty

theorem WellFormed.follow (legal : g.WellFormed) (steps : List Step) :
    (g.follow steps).WellFormed := by
  induction steps generalizing g with
  | nil => exact legal
  | cons step steps ih => exact ih (legal.after step)

/-- No command, line or reset breaks a well-formed graph, whether it succeeds, fails or breaks down
midway. All graphs of sessions that start with no arrows are well-formed. -/
theorem wellFormed_kept :
    (∀ (g : Graph) (c : Command), g.WellFormed → (c.apply g).graph.WellFormed) ∧
    (∀ (g : Graph) (line : String), g.WellFormed → (g.evaluate line).graph.WellFormed) ∧
    (∀ g : Graph, g.WellFormed → (Step.reset.after g).WellFormed) ∧
    ∀ steps : List Step, (empty.follow steps).WellFormed :=
  ⟨fun _ c legal => legal.apply c, fun _ line legal => legal.evaluate line,
    fun _ legal => legal.after .reset, fun steps => wellFormed_empty.follow steps⟩

def broken : Graph :=
  ⟨[⟨"b", "c", some "g"⟩, ⟨"a", "b", some "f"⟩, ⟨"x", "y", some "h"⟩]⟩

/-- The composite of the first two is drawn, then the row breaks down. -/
theorem wellFormed_kept_broken :
    broken.WellFormed ∧
    ((Command.single (.composeChain ["g", "f", "h"])).apply broken).outcome =
      .error (.mismatch ⟨⟨"a", "b", some "f"⟩, ⟨"x", "y", some "h"⟩⟩) ∧
    ((Command.single (.composeChain ["g", "f", "h"])).apply broken).graph =
      broken.add ⟨"a", "c", none⟩ ∧
    ((Command.single (.composeChain ["g", "f", "h"])).apply broken).graph.WellFormed := by
  have legal : broken.WellFormed := ⟨by decide, by decide, by decide⟩
  exact ⟨legal, rfl, by decide, wellFormed_kept.1 _ _ legal⟩

end Graph
end ArrowGraph
