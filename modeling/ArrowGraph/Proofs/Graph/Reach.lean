import ArrowGraph.Proofs.Graph.Stroke

namespace ArrowGraph.Graph

open Relation (ReflTransGen)

variable {g : Graph} {destination : String}

theorem mem_onward_iff_edge {seen : List String} {here next : String} :
    next ∈ g.onward seen here ↔ next ∉ seen ∧ g.Edge here next := by
  rw [mem_onward, edge_iff]

/-- What holds of the waiting trails and survives one object more holds of the trail that is
found. -/
theorem search_found {good : Trail → Prop} {seen : List String} {trails : List Trail}
    {trail : Trail} (step : ∀ t next, good t → g.Edge t.here next → good (t.step next))
    (start : ∀ t ∈ trails, good t) (found : g.search destination seen trails = some trail) :
    good trail ∧ trail.here = destination := by
  fun_induction search g destination seen trails with
  | case1 => cases found
  | case2 seen t trails fresh reached =>
    obtain rfl := Option.some.inj found
    have edge := (mem_onward_iff_edge.mp (by simpa [fresh] using reached)).2
    exact ⟨step t _ (start t (List.mem_cons_self ..)) edge, rfl⟩
  | case3 seen t trails fresh _ ih =>
    refine ih ?_ found
    intro u member
    rcases List.mem_append.mp member with old | new
    · exact start u (List.mem_cons_of_mem _ old)
    · obtain ⟨next, onward, rfl⟩ := List.mem_map.mp new
      exact step t next (start t (List.mem_cons_self ..)) (mem_onward_iff_edge.mp onward).2

def Closed (g : Graph) (objects : List String) : Prop :=
  ∀ x ∈ objects, ∀ y, g.Edge x y → y ∈ objects

/-- Whatever has been seen waits to be followed, or all that it leads to has been seen too. -/
def Followed (g : Graph) (seen : List String) (trails : List Trail) : Prop :=
  ∀ x ∈ seen, (∃ t ∈ trails, t.here = x) ∨ ∀ y, g.Edge x y → y ∈ seen

theorem Followed.turn {seen : List String} {t : Trail} {trails : List Trail}
    (followed : g.Followed seen (t :: trails)) :
    g.Followed (seen ++ g.onward seen t.here) (trails ++ (g.onward seen t.here).map t.step) := by
  intro x member
  rcases List.mem_append.mp member with old | new
  · rcases followed x old with ⟨u, waits, rfl⟩ | closed
    · rcases List.mem_cons.mp waits with rfl | later
      · right
        intro y edge
        by_cases before : y ∈ seen
        · exact List.mem_append_left _ before
        · exact List.mem_append_right _ (mem_onward_iff_edge.mpr ⟨before, edge⟩)
      · exact .inl ⟨u, List.mem_append_left _ later, rfl⟩
    · exact .inr fun y edge => List.mem_append_left _ (closed y edge)
  · exact .inl ⟨t.step x, List.mem_append_right _ (List.mem_map_of_mem new), rfl⟩

theorem search_missed {seen : List String} {trails : List Trail} (followed : g.Followed seen trails)
    (unseen : destination ∉ seen) (missed : g.search destination seen trails = none) :
    ∃ objects, seen ⊆ objects ∧ destination ∉ objects ∧ g.Closed objects := by
  fun_induction search g destination seen trails with
  | case1 seen =>
    refine ⟨seen, List.Subset.refl seen, unseen, ?_⟩
    intro x member
    rcases followed x member with ⟨_, none_waits, _⟩ | closed
    · cases none_waits
    · exact closed
  | case2 => cases missed
  | case3 seen t trails fresh unreached ih =>
    have unseen' : destination ∉ seen ++ fresh := by
      rw [List.mem_append, not_or]
      exact ⟨unseen, by simpa using unreached⟩
    obtain ⟨objects, within, outside, closed⟩ := ih followed.turn unseen' missed
    exact ⟨objects, fun x member => within (List.mem_append_left _ member), outside, closed⟩

theorem Closed.mem {objects : List String} {x y : String} (closed : g.Closed objects)
    (start : x ∈ objects) (walk : ReflTransGen g.Edge x y) : y ∈ objects := by
  induction walk with
  | refl => exact start
  | tail _ edge ih => exact closed _ ih _ edge

/-- A route exists exactly where arrows lead, in no, one or many steps. -/
theorem isSome_route_iff {origin : String} :
    (g.route origin destination).isSome = true ↔ ReflTransGen g.Edge origin destination := by
  by_cases here : origin = destination
  · subst here
    simp only [route, if_true, Option.isSome_some, true_iff]
    exact .refl
  · simp only [route, if_neg here, Option.isSome_map]
    constructor
    · intro found
      obtain ⟨trail, found⟩ := Option.isSome_iff_exists.mp found
      have longer : ∀ (t : Trail) (next : String), ReflTransGen g.Edge origin t.here →
          g.Edge t.here next → ReflTransGen g.Edge origin (t.step next).here :=
        fun _ _ walk edge => walk.tail edge
      have reached := search_found longer (by simpa using .refl) found
      exact reached.2 ▸ reached.1
    · intro walk
      by_contra missed
      rw [Option.not_isSome_iff_eq_none] at missed
      obtain ⟨objects, within, outside, closed⟩ :=
        search_missed (by simp [Followed]) (by simpa using Ne.symm here) missed
      exact outside (closed.mem (within (List.mem_singleton_self origin)) walk)

end ArrowGraph.Graph
