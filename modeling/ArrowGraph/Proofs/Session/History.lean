import ArrowGraph.Proofs.FirstSeen
import ArrowGraph.Proofs.Graph.Growth
import ArrowGraph.Proofs.Session.Step

namespace ArrowGraph.Graph

variable {g h : Graph}

/-- The second graph goes on where the first one ends. -/
structure Continues (g h : Graph) : Prop where
  length : g.arrows.length ≤ h.arrows.length
  grown : g.Grows h
  shown : ∀ (i : Nat) (a : Arrow) (name : String),
    g.arrows[i]? = some a → a.givenName = some name → h.arrows[i]? = some a

theorem Grows.length (grown : g.Grows h) : g.arrows.length ≤ h.arrows.length := by
  simpa [edges] using grown.edges_prefix.length_le

theorem eq_of_stays {a b : Arrow} {name : String} (stays : a.Stays b)
    (shown : a.givenName = some name) : b = a := by
  obtain ⟨starts, ends, kept | ⟨unnamed, _⟩⟩ := stays
  · obtain ⟨source, target, label⟩ := a
    obtain ⟨source', target', label'⟩ := b
    cases starts
    cases ends
    cases kept
    rfl
  · rw [shown] at unnamed
    cases unnamed

theorem Grows.continues (grown : g.Grows h) : g.Continues h := by
  refine ⟨grown.length, grown, ?_⟩
  intro i a name here shown
  obtain ⟨b, there, stays⟩ := grown i a here
  rwa [eq_of_stays stays shown] at there

theorem grows_apply (g : Graph) (c : Command) : g.Grows (c.apply g).graph :=
  (strokes_apply c g).grows

theorem grows_after {step : Step} (keeps : step ≠ .reset) (g : Graph) : g.Grows (step.after g) := by
  cases step with
  | apply c => exact grows_apply g c
  | reset => exact absurd rfl keeps
  | evaluate line =>
    rw [Step.after]
    rcases evaluate_graph_cases g line with same | ⟨c, _, applied⟩
    · rw [same]
      exact .refl g
    · rw [applied]
      exact grows_apply g c

theorem grows_follow {steps : List Step} (keeps : ∀ step ∈ steps, step ≠ .reset) (g : Graph) :
    g.Grows (g.follow steps) := by
  induction steps generalizing g with
  | nil => exact .refl g
  | cons step steps ih =>
    have first := grows_after (keeps step (List.mem_cons_self ..)) g
    have others := ih (fun other member => keeps other (List.mem_cons_of_mem _ member)) (step.after g)
    exact first.trans others

/-- Commands, and any steps other than resets, continue the graph that they start from. -/
theorem history_continues :
    (∀ (g : Graph) (c : Command), g.Continues (c.apply g).graph) ∧
    ∀ (g : Graph) (steps : List Step), (∀ step ∈ steps, step ≠ .reset) →
      g.Continues (g.follow steps) := by
  constructor
  · intro g c
    exact (grows_apply g c).continues
  · intro g steps keeps
    exact (grows_follow keeps g).continues

/-- Not well-formed: the first two arrows have the same ends, and the last one a name that does not
show. -/
def disorder : Graph :=
  ⟨[⟨"b", "c", some "g"⟩, ⟨"b", "c", none⟩, ⟨"a", "b", some "f"⟩, ⟨"x", "y", some ""⟩]⟩

/-- A row breaks down after its first composite, a name is refused, and another one is given to the
arrow whose name does not show. -/
theorem history_continues_disorder :
    let steps : List Step :=
      [.apply (.single (.composeChain ["g", "f", "g"])), .evaluate "k: a -> b", .evaluate "h: x -> y"]
    (∀ step ∈ steps, step ≠ .reset) ∧
      disorder.follow steps =
        ⟨[⟨"b", "c", some "g"⟩, ⟨"b", "c", none⟩, ⟨"a", "b", some "f"⟩, ⟨"x", "y", some "h"⟩,
          ⟨"a", "c", none⟩]⟩ ∧
      disorder.Continues (disorder.follow steps) := by
  intro steps
  have keeps : ∀ step ∈ steps, step ≠ .reset := by simp [steps]
  refine ⟨keeps, ?_, history_continues.2 disorder steps keeps⟩
  decide +kernel

theorem touching_ne_nil_iff {object : String} :
    g.touching object ≠ [] ↔ g.hasObject object = true := by
  rw [touching, hasObject, ne_eq, List.filter_eq_nil_iff, List.any_eq_true]
  simp

theorem Grows.objects_prefix (grown : g.Grows h) : g.objects <+: h.objects :=
  eraseDups_prefix grown.ends_prefix

/-- The list of objects holds what some arrow touches, each object once and in the order in which
the arrows bring them up. Commands, and any steps other than resets, add to its end only. -/
theorem objects_in_order :
    (∀ g : Graph, FirstSeen g.objects g.ends ∧
      ∀ x, (x ∈ g.objects ↔ g.hasObject x = true) ∧
        (g.hasObject x = true ↔ g.touching x ≠ [])) ∧
    (∀ (g : Graph) (c : Command), g.objects <+: (c.apply g).graph.objects) ∧
    ∀ (g : Graph) (steps : List Step), (∀ step ∈ steps, step ≠ .reset) →
      g.objects <+: (g.follow steps).objects := by
  refine ⟨fun g => ⟨firstSeen_eraseDups g.ends, fun x => ?_⟩, fun g c => ?_, fun g steps keeps => ?_⟩
  · exact ⟨mem_objects_iff_hasObject, touching_ne_nil_iff.symm⟩
  · exact Grows.objects_prefix (grows_apply g c)
  · exact Grows.objects_prefix (grows_follow keeps g)

/-- A row breaks down after its first composite, an arrow is named in place, and a line fails after
an arrow to a new object. -/
theorem objects_in_order_disorder :
    let steps : List Step := [.apply (.single (.composeChain ["g", "f", "g"])),
      .evaluate "h: x -> y", .evaluate "c -> z -> h; w"]
    (∀ step ∈ steps, step ≠ .reset) ∧ disorder.objects = ["b", "c", "a", "x", "y"] ∧
      (disorder.follow steps).objects = ["b", "c", "a", "x", "y", "z"] ∧
      disorder.objects <+: (disorder.follow steps).objects := by
  intro steps
  have keeps : ∀ step ∈ steps, step ≠ .reset := by simp [steps]
  refine ⟨keeps, by decide, ?_, objects_in_order.2.2 disorder steps keeps⟩
  decide +kernel

end ArrowGraph.Graph
