import ArrowGraph.Proofs.Graph.Growth
import ArrowGraph.Proofs.Graph.WellFormed

/-! Looking again. In a well-formed graph a name or an edge determines its arrow, so an arrow that
is there is found, and to draw it again changes nothing. What a proper graph shows is still to be
found when it has grown into a proper graph. -/
namespace ArrowGraph.Graph

variable {g h k : Graph} {a b : Arrow} {name : String}

theorem WellFormed.same_name (legal : g.WellFormed) (here : a ∈ g.arrows) (there : b ∈ g.arrows)
    (named : a.name = some name) (alike : b.name = some name) : a = b := by
  obtain ⟨before, after, split⟩ := List.append_of_mem here
  have distinct := legal.names
  simp only [Graph.names, split, List.filterMap_append, List.filterMap_cons_some named] at distinct
  rw [List.nodup_middle, List.nodup_cons, List.mem_append, not_or] at distinct
  rw [split, List.mem_append, List.mem_cons] at there
  rcases there with first | rfl | last
  · exact absurd (List.mem_filterMap.mpr ⟨b, first, alike⟩) distinct.1.1
  · rfl
  · exact absurd (List.mem_filterMap.mpr ⟨b, last, alike⟩) distinct.1.2

theorem WellFormed.same_edge (legal : g.WellFormed) (here : a ∈ g.arrows) (there : b ∈ g.arrows)
    (starts : a.source = b.source) (ends : a.target = b.target) : a = b :=
  List.inj_on_of_nodup_map legal.edges here there (by rw [starts, ends])

theorem WellFormed.arrow? (legal : g.WellFormed) (member : a ∈ g.arrows)
    (named : a.name = some name) : g.arrow? name = some a := by
  obtain ⟨b, found⟩ := Option.isSome_iff_exists.mp (hasName_iff.mpr ⟨a, member, named⟩)
  obtain ⟨member', named'⟩ := arrow?_some found
  rw [found, legal.same_name member' member named' named]

theorem WellFormed.edge? (legal : g.WellFormed) (member : a ∈ g.arrows) :
    g.edge? a.source a.target = some a := by
  cases found : g.edge? a.source a.target with
  | none => exact absurd (edge_iff.mpr ⟨a, member, rfl, rfl⟩) (edge?_eq_none_iff.mp found)
  | some b =>
    obtain ⟨member', starts, ends⟩ := edge?_some found
    rw [legal.same_edge member' member starts ends]

theorem WellFormed.hasName_end {object : String} (legal : g.WellFormed) (member : object ∈ g.ends) :
    g.hasName object = false := by
  rw [hasName_eq_decide, decide_eq_false_iff_not]
  exact fun isName => legal.apart object isName member

/-- What is drawn already stays as it is, and the attempt to draw it succeeds. -/
theorem WellFormed.attempt_of_has (legal : g.WellFormed) (has : g.Has a) :
    ∃ b, g.attempt a = (g, .present b) := by
  obtain ⟨source, target, name⟩ := a
  obtain ⟨isSource, isTarget⟩ := mem_ends_of_edge has.edge
  have noSource := legal.hasName_end isSource
  have noTarget := legal.hasName_end isTarget
  obtain ⟨b, member, rfl, rfl, same⟩ := has
  have found := legal.edge? member
  refine ⟨b, ?_⟩
  cases name with
  | none => simp [Graph.attempt, draw, noSource, noTarget, found]
  | some name =>
    have named : b.name = some name := by simpa using same
    have apart := legal.apart name (mem_names.mpr ⟨b, member, named⟩)
    have noStart : name ≠ b.source := fun same => apart (same ▸ isSource)
    have noEnd : name ≠ b.target := fun same => apart (same ▸ isTarget)
    have noObject : g.hasObject name = false := by simpa [hasObject_eq_decide] using apart
    simp [Graph.attempt, drawNamed, noObject, noStart, noEnd, noSource, noTarget, found, named]

/-- A proper graph and what has become of it. -/
structure Later (g h : Graph) : Prop where
  start : g.Proper
  now : h.Proper
  grown : g.Grows h

theorem Later.refl (proper : g.Proper) : g.Later g :=
  ⟨proper, proper, .refl g⟩

theorem Later.trans (first : g.Later h) (second : h.Later k) : g.Later k :=
  ⟨first.start, second.now, first.grown.trans second.grown⟩

theorem later_of_strokes {may : Graph → Arrow → Prop} (proper : g.Proper) (drawn : Strokes may g h)
    (shows : ∀ k a, may k a → a.name ≠ some "") : g.Later h := by
  refine ⟨proper, ?_, drawn.grows⟩
  exact drawn.keep proper fun k a known allowed => known.attempt (shows k a allowed)

theorem later_attempt (proper : g.Proper) (shows : a.name ≠ some "") : g.Later (g.attempt a).1 :=
  ⟨proper, proper.attempt shows, grows_attempt g a⟩

theorem unnamed_ne_empty : (none : Option String) ≠ some "" :=
  (Option.some_ne_none "").symm

theorem Later.arrow? (later : g.Later h) (found : g.arrow? name = some a) :
    ∃ b, h.arrow? name = some b ∧ a.Stays b := by
  obtain ⟨member, named⟩ := arrow?_some found
  have shows : name ≠ "" := by
    rintro rfl
    exact later.start.shown (mem_names.mpr ⟨a, member, named⟩)
  obtain ⟨b, there, stays⟩ := later.grown.mem member
  exact ⟨b, later.now.arrow? there (stays.shown named shows), stays⟩

theorem Later.mem_names (later : g.Later h) (member : name ∈ g.names) : name ∈ h.names := by
  obtain ⟨a, here, named⟩ := Graph.mem_names.mp member
  obtain ⟨b, found, _⟩ := later.arrow? (later.start.arrow? here named)
  exact Graph.mem_names.mpr ⟨b, arrow?_some found⟩

end ArrowGraph.Graph
