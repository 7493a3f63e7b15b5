import ArrowGraph.Proofs.Graph.Parents

namespace ArrowGraph.Graph

variable {g : Graph} {origin destination : String} {objects : List String}

/-- Arrows of the graph of which each starts where the one before ends, from the first object to the
last. -/
inductive Trip (g : Graph) : String → List Arrow → String → Prop where
  | stay (x : String) : Trip g x [] x
  | go {a : Arrow} {arrows : List Arrow} {destination : String} (drawn : a ∈ g.arrows)
      (others : Trip g a.target arrows destination) :
      Trip g a.source (a :: arrows) destination

def objectsAlong (origin : String) (arrows : List Arrow) : List String :=
  origin :: arrows.map Arrow.target

theorem Trip.walk {arrows : List Arrow} (trip : g.Trip origin arrows destination) :
    g.Walk origin destination (objectsAlong origin arrows) := by
  induction trip with
  | stay x => exact ⟨rfl, rfl, .singleton x⟩
  | @go a arrows destination drawn others ih =>
    obtain ⟨_, ends, linked⟩ := ih
    refine ⟨rfl, ?_, ?_⟩
    · rw [objectsAlong, List.getLast?_cons_of_ne_nil (by simp)]
      exact ends
    · exact List.isChain_cons_cons.mpr ⟨edge_iff.mpr ⟨a, drawn, rfl, rfl⟩, linked⟩

theorem Walk.trip (walk : g.Walk origin destination objects) :
    ∃ arrows, g.Trip origin arrows destination := by
  obtain ⟨starts, ends, linked⟩ := walk
  induction objects generalizing origin with
  | nil => cases starts
  | cons x objects ih =>
    obtain rfl := Option.some.inj starts
    cases objects with
    | nil =>
      obtain rfl := Option.some.inj ends
      exact ⟨[], .stay _⟩
    | cons y objects =>
      obtain ⟨edge, others⟩ := List.isChain_cons_cons.mp linked
      obtain ⟨a, drawn, rfl, rfl⟩ := edge_iff.mp edge
      obtain ⟨arrows, trip⟩ := ih rfl ends others
      exact ⟨a :: arrows, .go drawn trip⟩

theorem exists_trip_iff :
    (∃ arrows, g.Trip origin arrows destination) ↔
      (g.route origin destination).isSome = true := by
  constructor
  · rintro ⟨arrows, trip⟩
    rw [isSome_route_iff]
    induction trip with
    | stay => exact .refl
    | @go a arrows destination drawn others ih =>
      exact .head (edge_iff.mpr ⟨a, drawn, rfl, rfl⟩) ih
  · intro found
    obtain ⟨objects, found⟩ := Option.isSome_iff_exists.mp found
    exact (walk_of_route found).trip

/-- There is no route exactly where no arrows lead. A route goes from the origin to the destination
along arrows, meets no object twice, and no trip along the arrows is shorter. A search by a table of
parents and the way back along it come to the same in every case. -/
theorem route_exact (g : Graph) (origin destination : String) :
    (g.route origin destination = none ↔ ¬ ∃ arrows, g.Trip origin arrows destination) ∧
    (∀ objects, g.route origin destination = some objects →
      objects.head? = some origin ∧ objects.getLast? = some destination ∧ objects.Nodup ∧
      objects.IsChain g.Edge ∧
      ∀ arrows, g.Trip origin arrows destination →
        objects.length ≤ (objectsAlong origin arrows).length) ∧
    ∀ result, g.RouteBack origin destination result ↔ g.route origin destination = result := by
  refine ⟨?_, ?_, fun _ => routeBack_iff⟩
  · rw [exists_trip_iff, Option.not_isSome_iff_eq_none]
  · intro objects found
    have walk := walk_of_route found
    refine ⟨walk.starts, walk.ends, nodup_of_route found, walk.linked, ?_⟩
    exact fun arrows trip => route_shortest found trip.walk

/-- A loop, two arrows between the same objects, and a way round: two shortest routes lead from a to
d, and none leads to e. -/
theorem route_exact_round :
    let g : Graph := ⟨[⟨"a", "a", none⟩, ⟨"a", "b", some "f"⟩, ⟨"a", "b", none⟩, ⟨"b", "a", none⟩,
      ⟨"a", "c", none⟩, ⟨"c", "d", none⟩, ⟨"b", "d", none⟩, ⟨"e", "a", none⟩]⟩
    g.route "a" "d" = some ["a", "b", "d"] ∧ (¬ ∃ arrows, g.Trip "a" arrows "e") ∧
    (∀ arrows, g.Trip "a" arrows "d" → 3 ≤ (objectsAlong "a" arrows).length) ∧
    g.RouteBack "a" "d" (some ["a", "b", "d"]) := by
  intro g
  have found : g.route "a" "d" = some ["a", "b", "d"] := by decide +kernel
  have lost : g.route "a" "e" = none := by decide +kernel
  obtain ⟨_, sound, back⟩ := route_exact g "a" "d"
  obtain ⟨_, _, _, _, shortest⟩ := sound _ found
  exact ⟨found, (route_exact g "a" "e").1.mp lost, shortest, (back _).mpr found⟩

end ArrowGraph.Graph
