import ArrowGraph.Proofs.Command.Flat
import ArrowGraph.Proofs.Graph.Part

namespace ArrowGraph

namespace Graph

variable {g h : Graph} {a : Arrow}

/-- A proper graph that has all arrows of the first one, under their names, and the given one. -/
structure ExtendsBy (g : Graph) (a : Arrow) (h : Graph) : Prop where
  proper : h.Proper
  kept : ∀ b ∈ g.arrows, h.Has b
  drawn : h.Has a

/-- What one arrow may change: it is added at the end, or its name is given to the arrow that was
drawn without one. -/
inductive ChangedBy (a : Arrow) (g : Graph) : Graph → Prop where
  | same : ChangedBy a g g
  | added : ChangedBy a g ⟨g.arrows ++ [a]⟩
  | named {before after : List Arrow}
      (split : g.arrows = before ++ ⟨a.source, a.target, none⟩ :: after)
      (named : a.name ≠ none) : ChangedBy a g ⟨before ++ a :: after⟩

/-- A run that draws the arrow if it is possible, and else changes nothing. -/
structure DrawsIfPossible (g : Graph) (a : Arrow) (run : Run) : Prop where
  reports : ∃ report, run.outcome = .ok report
  possible : Succeeds run.outcome ↔ ∃ h, g.ExtendsBy a h
  drawn : Succeeds run.outcome → g.ExtendsBy a run.graph ∧ ChangedBy a g run.graph
  refused : ¬ Succeeds run.outcome → run.graph = g

theorem Proper.name_eq_none (proper : g.Proper) (member : a ∈ g.arrows)
    (unnamed : a.givenName = none) : a.name = none := by
  rcases Arrow.givenName_eq_none_iff.mp unnamed with none_given | empty
  · exact none_given
  · exact absurd (mem_names.mpr ⟨a, member, empty⟩) proper.shown

theorem Proper.changedBy_attempt (proper : g.Proper) (a : Arrow) :
    ChangedBy a g (g.attempt a).1 := by
  have outcome := g.attempt_outcome a
  generalize g.attempt a = result at outcome ⊢
  cases outcome with
  | refused | present => exact .same
  | added => exact .added
  | @named name b _ asked found unnamed =>
    obtain ⟨before, after, whole, split⟩ := nameEdge_split name found
    obtain ⟨member, starts, ends⟩ := edge?_some found
    have label := proper.name_eq_none member unnamed
    obtain ⟨source, target, _⟩ := a
    obtain ⟨source', target', _⟩ := b
    cases starts
    cases ends
    cases label
    cases asked
    have changed := ChangedBy.named (a := ⟨source, target, some name⟩) whole nofun
    rwa [← split] at changed

theorem Proper.extendsBy_attempt (proper : g.Proper) (shows : a.name ≠ some "")
    (success : (g.attempt a).2.isSuccess = true) : g.ExtendsBy a (g.attempt a).1 := by
  have later := later_attempt proper shows
  exact ⟨later.now, later.partOf.drawn, has_of_attempt success⟩

theorem ExtendsBy.isSuccess (extends_by : g.ExtendsBy a h) (legal : g.WellFormed) :
    (g.attempt a).2.isSuccess = true := by
  have part : g.PartOf h := ⟨legal, extends_by.proper.toWellFormed, extends_by.kept⟩
  exact (part.attempt extends_by.drawn).1

theorem attempt_fst_of_failure (failure : (g.attempt a).2.isSuccess = false) :
    (g.attempt a).1 = g := by
  have outcome := g.attempt_outcome a
  generalize g.attempt a = result at outcome failure ⊢
  cases outcome with
  | refused | present => rfl
  | added | named => cases failure

theorem Proper.drawsIfPossible {run : Run} (proper : g.Proper) (shows : a.name ≠ some "")
    (graph : run.graph = (g.attempt a).1)
    (outcome : run.outcome = .ok (g.attempt a).2.report) : g.DrawsIfPossible a run := by
  have success : Succeeds run.outcome ↔ (g.attempt a).2.isSuccess = true := by
    simp [Succeeds, outcome, Notice.report]
  refine ⟨⟨_, outcome⟩, ?_, ?_, ?_⟩
  · rw [success]
    constructor
    · exact fun drawn => ⟨_, proper.extendsBy_attempt shows drawn⟩
    · rintro ⟨h, possible⟩
      exact possible.isSuccess proper.toWellFormed
  · rw [success, graph]
    exact fun drawn => ⟨proper.extendsBy_attempt shows drawn, proper.changedBy_attempt a⟩
  · rw [success, graph, Bool.not_eq_true]
    exact attempt_fst_of_failure

/-- In a proper graph the commands that draw one arrow draw it exactly if some proper graph goes on
from this one and has it. They change nothing else, and nothing at all if they fail. -/
theorem draws_if_possible (proper : g.Proper) :
    (∀ source target, g.DrawsIfPossible ⟨source, target, none⟩
      ((Command.single (.draw source target)).apply g)) ∧
    ∀ name source target, name ≠ "" → g.DrawsIfPossible ⟨source, target, some name⟩
      ((Command.single (.drawNamed name source target)).apply g) := by
  constructor
  · intro source target
    exact proper.drawsIfPossible (a := ⟨source, target, none⟩) nofun rfl rfl
  · intro name source target shows
    exact proper.drawsIfPossible (a := ⟨source, target, some name⟩) (by simpa using shows) rfl rfl

/-- One edge can be named, but not with the name of the other; and no arrow can end at that name. -/
theorem draws_if_possible_taken :
    let g : Graph := ⟨[⟨"a", "b", some "f"⟩, ⟨"b", "c", none⟩]⟩
    g.Proper ∧
    g.ExtendsBy ⟨"b", "c", some "g"⟩ ⟨[⟨"a", "b", some "f"⟩, ⟨"b", "c", some "g"⟩]⟩ ∧
    (¬ ∃ h, g.ExtendsBy ⟨"b", "c", some "f"⟩ h) ∧ ¬ ∃ h, g.ExtendsBy ⟨"c", "f", none⟩ h := by
  intro g
  have proper : g.Proper := ⟨⟨by decide, by decide, by decide⟩, by decide⟩
  obtain ⟨draw, drawNamed⟩ := draws_if_possible proper
  refine ⟨proper, ?_, ?_, ?_⟩
  · exact ((drawNamed "g" "b" "c" (by decide)).drawn ⟨_, rfl, rfl⟩).1
  · rw [← (drawNamed "f" "b" "c" (by decide)).possible]
    rintro ⟨_, ⟨⟩, good⟩
    exact absurd good (by decide)
  · rw [← (draw "c" "f").possible]
    rintro ⟨_, ⟨⟩, good⟩
    exact absurd good (by decide)

end Graph
end ArrowGraph
