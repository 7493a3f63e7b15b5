import ArrowGraph.Proofs.Graph.Stroke
import Mathlib.Data.List.Flatten

/-! Well-formed graphs. Names and objects are kept apart, and no name and no edge occurs twice.
Every stroke keeps this, whatever it comes to; it also keeps all names showing, unless it is tried
under the empty name. -/
namespace ArrowGraph.Graph

/-- What holds of a graph between any two strokes. An empty name counts as a name here. -/
structure WellFormed (g : Graph) : Prop where
  apart : ∀ name ∈ g.names, name ∉ g.ends
  names : g.names.Nodup
  edges : g.edges.Nodup

variable {g : Graph} {a b : Arrow}

theorem wellFormed_empty : empty.WellFormed :=
  ⟨nofun, .nil, .nil⟩

theorem WellFormed.add (legal : g.WellFormed) (free : g.Free a)
    (absent : ¬ g.Edge a.source a.target) : (g.add a).WellFormed := by
  refine ⟨?_, ?_, ?_⟩
  · intro name member
    rw [names_add, List.mem_append, Option.mem_toList] at member
    rw [ends_add, List.mem_append]
    rcases member with old | new
    · have noSource : name ≠ a.source := fun same => free.source (same ▸ old)
      have noTarget : name ≠ a.target := fun same => free.target (same ▸ old)
      simp [legal.apart name old, noSource, noTarget]
    · simpa using free.noObject name new
  · rw [names_add, List.nodup_append]
    refine ⟨legal.names, by cases a.name <;> simp, ?_⟩
    intro old hold name new same
    exact free.unused name (Option.mem_toList.mp new) (same ▸ hold)
  · rw [edges_add, List.nodup_append]
    refine ⟨legal.edges, by simp, ?_⟩
    intro edge member new hnew same
    obtain rfl := List.mem_singleton.mp hnew
    rw [same] at member
    exact absent member

/-- In a well-formed graph the last arrow could be drawn onto those before it. -/
theorem free_of_wellFormed_add (legal : (g.add a).WellFormed) :
    g.Free a ∧ ¬ g.Edge a.source a.target := by
  obtain ⟨apart, names, edges⟩ := legal
  simp only [names_add, ends_add, List.mem_append, List.mem_cons, List.not_mem_nil, or_false,
    Option.mem_toList, not_or] at apart
  rw [names_add, List.nodup_append] at names
  rw [edges_add, List.nodup_append] at edges
  refine ⟨⟨?_, ?_, ?_, ?_⟩, ?_⟩
  · intro member
    exact (apart a.source (.inl member)).2.1 rfl
  · intro member
    exact (apart a.target (.inl member)).2.2 rfl
  · intro name asked member
    exact names.2.2 name member name (Option.mem_toList.mpr asked) rfl
  · intro name asked
    exact apart name (.inr asked)
  · intro edge
    exact edges.2.2 _ edge _ (List.mem_singleton_self _) rfl

theorem WellFormed.sublist {h : Graph} (legal : g.WellFormed)
    (fewer : h.arrows.Sublist g.arrows) : h.WellFormed := by
  have names : h.names.Sublist g.names := fewer.filterMap _
  have edges : h.edges.Sublist g.edges := fewer.map _
  have ends : h.ends.Sublist g.ends := fewer.flatMap _
  refine ⟨?_, legal.names.sublist names, legal.edges.sublist edges⟩
  intro name member
  exact fun known => legal.apart name (names.subset member) (ends.subset known)

theorem WellFormed.nameEdge {name : String} (legal : g.WellFormed) (free : g.Free a)
    (asked : a.name = some name) (found : g.edge? a.source a.target = some b) :
    (g.nameEdge name a.source a.target).WellFormed := by
  obtain ⟨before, after, old, new⟩ := names_nameEdge name found
  have fewer : (before ++ after).Sublist g.names := by
    rw [old, List.append_assoc]
    exact List.Sublist.append_left (List.sublist_append_right ..) before
  refine ⟨?_, ?_, ?_⟩
  · intro other member
    rw [nameEdge_ends]
    rw [new, List.mem_append, List.mem_cons, or_left_comm, ← List.mem_append] at member
    rcases member with rfl | kept
    · exact (free.noObject other asked).1
    · exact legal.apart other (fewer.subset kept)
  · rw [new, List.nodup_middle, List.nodup_cons]
    exact ⟨fun kept => free.unused name asked (fewer.subset kept), legal.names.sublist fewer⟩
  · rw [edges_nameEdge]
    exact legal.edges

theorem WellFormed.attempt (legal : g.WellFormed) (a : Arrow) : (g.attempt a).1.WellFormed := by
  have outcome := g.attempt_outcome a
  generalize g.attempt a = result at outcome ⊢
  cases outcome with
  | refused => exact legal
  | present => exact legal
  | added free absent => exact legal.add free (edge?_eq_none_iff.mp absent)
  | named free asked found _ => exact legal.nameEdge free asked found

/-- A well-formed graph in which all names show. -/
structure Proper (g : Graph) : Prop extends WellFormed g where
  shown : "" ∉ g.names

theorem Proper.attempt (proper : g.Proper) (shows : a.name ≠ some "") : (g.attempt a).1.Proper := by
  refine ⟨proper.toWellFormed.attempt a, ?_⟩
  intro member
  rcases mem_names_attempt member with old | new
  · exact proper.shown old
  · exact shows new

end ArrowGraph.Graph
