import ArrowGraph.Proofs.Command.Strokes
import ArrowGraph.Proofs.Graph.Shortest

/-! Composing. A composite goes where arrows led before, whether it is that of neighbours or of a
whole row. So composing brings in no object and joins none that were apart; it can only shorten
routes. -/
namespace ArrowGraph

open Relation (ReflTransGen TransGen)

namespace Graph

variable {g h : Graph}

/-- The second graph is the first with arrows added where arrows led already. -/
structure Shortcut (g h : Graph) : Prop where
  objects : h.objects = g.objects
  leads : ∀ x y, h.Edge x y → TransGen g.Edge x y
  grown : g.Grows h

theorem Shortcut.refl (g : Graph) : g.Shortcut g :=
  ⟨rfl, fun _ _ edge => .single edge, .refl g⟩

theorem objects_add_of_mem {a : Arrow} (source : a.source ∈ g.ends) (target : a.target ∈ g.ends) :
    (g.add a).objects = g.objects := by
  have known : [a.source, a.target].removeAll g.ends = [] := by
    simp [List.removeAll, source, target]
  rw [objects, ends_add, List.eraseDups_append, known, List.eraseDups_nil, List.append_nil, objects]

theorem objects_attempt {a : Arrow} (leads : TransGen g.Edge a.source a.target) :
    (g.attempt a).1.objects = g.objects := by
  obtain ⟨source, target⟩ := mem_ends_of_leads leads
  have outcome := g.attempt_outcome a
  generalize g.attempt a = result at outcome ⊢
  cases outcome with
  | refused | present => rfl
  | added => exact objects_add_of_mem source target
  | named => simp only [objects, nameEdge_ends]

theorem Shortcut.attempt {a : Arrow} (shortcut : g.Shortcut h)
    (leads : TransGen h.Edge a.source a.target) : g.Shortcut (h.attempt a).1 := by
  obtain ⟨same, led, grown⟩ := shortcut
  refine ⟨(objects_attempt leads).trans same, ?_, grown.trans (grows_attempt h a)⟩
  intro x y edge
  rcases edge_attempt edge with old | ⟨rfl, rfl⟩
  · exact led x y old
  · exact TransGen.closed led _ _ leads

theorem Shortcut.reaches_iff (shortcut : g.Shortcut h) {x y : String} :
    ReflTransGen h.Edge x y ↔ ReflTransGen g.Edge x y := by
  constructor
  · refine Relation.reflTransGen_closed ?_ x y
    exact fun a b edge => (shortcut.leads a b edge).to_reflTransGen
  · exact ReflTransGen.mono (fun _ _ edge => shortcut.grown.edge edge) x y

theorem Shortcut.route_eq_none_iff (shortcut : g.Shortcut h) (x y : String) :
    h.route x y = none ↔ g.route x y = none := by
  rw [← Option.not_isSome_iff_eq_none, ← Option.not_isSome_iff_eq_none, isSome_route_iff,
    isSome_route_iff, shortcut.reaches_iff]

/-- The route of before is still a walk, and no walk is shorter than the route of now. -/
theorem Grows.route_length {x y : String} {before now : List String} (grown : g.Grows h)
    (found : g.route x y = some before) (again : h.route x y = some now) :
    now.length ≤ before.length :=
  route_shortest again (grown.walk (walk_of_route found))

end Graph

namespace Statement

def Composes : Statement → Prop
  | compose .. | composeNamed .. | composeChain _ | composeNamedChain .. => True
  | _ => False

theorem Composes.leads {s : Statement} {g : Graph} {a : Arrow} (composes : s.Composes)
    (allowed : s.MayTry g a) : TransGen g.Edge a.source a.target := by
  have none_mentioned : s.objects = [] := by
    cases s <;> first | rfl | cases composes
  rcases allowed.ends with ⟨mentioned, _⟩ | leads
  · rw [none_mentioned] at mentioned
    cases mentioned
  · exact leads

end Statement

namespace Command

/-- The command consists of compositions, in any order and depth. -/
def Composes (c : Command) : Prop :=
  ∀ s ∈ c.statements, s.Composes

theorem Composes.shortcut {c : Command} (composes : c.Composes) (g : Graph) :
    g.Shortcut (c.apply g).graph := by
  refine (strokes_apply c g).keep (.refl g) ?_
  rintro h a shortcut ⟨s, member, allowed⟩
  exact shortcut.attempt ((composes s member).leads allowed)

/-- Compositions leave the objects as they are, in order; they connect no objects that were not
connected, and make no route longer. They may fail or break down midway. -/
theorem composing_keeps_routes {c : Command} (composes : c.Composes) (g : Graph) :
    (c.apply g).graph.objects = g.objects ∧
    ∀ x y : String, ((c.apply g).graph.route x y = none ↔ g.route x y = none) ∧
      ∀ before now, g.route x y = some before → (c.apply g).graph.route x y = some now →
        now.length ≤ before.length := by
  have shortcut := composes.shortcut g
  refine ⟨shortcut.objects, fun x y => ⟨shortcut.route_eq_none_iff x y, ?_⟩⟩
  intro before now found again
  exact shortcut.grown.route_length found again

/-- The first composite is drawn, and shortens a route; then two arrows do not meet, and the last
composition is not reached. -/
theorem composing_keeps_routes_breakdown :
    let g : Graph := ⟨[⟨"b", "c", some "g"⟩, ⟨"a", "b", some "f"⟩, ⟨"x", "y", some "h"⟩]⟩
    let c : Command :=
      .batch [.batch [.single (.composeChain ["g", "f", "h"])], .single (.composeNamed "k" "g" "f")]
    c.Composes ∧
      (c.apply g).outcome =
        .error (.mismatch ⟨⟨"a", "b", some "f"⟩, ⟨"x", "y", some "h"⟩⟩) ∧
      g.route "a" "c" = some ["a", "b", "c"] ∧ (c.apply g).graph.route "a" "c" = some ["a", "c"] ∧
      (c.apply g).graph.objects = g.objects ∧
      ∀ x y : String, ((c.apply g).graph.route x y = none ↔ g.route x y = none) ∧
        ∀ before now, g.route x y = some before → (c.apply g).graph.route x y = some now →
          now.length ≤ before.length := by
  intro g c
  have composes : c.Composes := by
    simp [Composes, c, statements, statementsEach, Statement.Composes]
  exact ⟨composes, by decide +kernel, by decide +kernel, by decide +kernel,
    composing_keeps_routes composes g⟩

end Command
end ArrowGraph
