import ArrowGraph.Proofs.Graph.Stroke
import Mathlib.Data.List.Infix

/-! Growth. Strokes add arrows at the end and give names to arrows that show none; nothing else ever
happens to an arrow. So an edge, an object and a name that shows are there for good. -/
namespace ArrowGraph

/-- What may become of one arrow: it keeps its ends, and its name unless that did not show. -/
structure Arrow.Stays (a b : Arrow) : Prop where
  source : b.source = a.source
  target : b.target = a.target
  name : b.name = a.name ∨ (a.givenName = none ∧ b.name.isSome = true)

theorem Arrow.givenName_eq_none_iff {a : Arrow} :
    a.givenName = none ↔ a.name = none ∨ a.name = some "" := by
  cases h : a.name with
  | none => simp [givenName, h]
  | some name => simp [givenName, h]

theorem Arrow.Stays.refl (a : Arrow) : a.Stays a :=
  ⟨rfl, rfl, .inl rfl⟩

theorem Arrow.Stays.trans {a b c : Arrow} (first : a.Stays b) (second : b.Stays c) : a.Stays c := by
  refine ⟨second.source.trans first.source, second.target.trans first.target, ?_⟩
  rcases first.name with kept | ⟨unnamed, named⟩
  · rcases second.name with kept' | ⟨unnamed, named⟩
    · exact .inl (kept'.trans kept)
    · refine .inr ⟨?_, named⟩
      rwa [givenName_eq_none_iff, kept, ← givenName_eq_none_iff] at unnamed
  · rcases second.name with kept | ⟨_, named'⟩
    · exact .inr ⟨unnamed, kept ▸ named⟩
    · exact .inr ⟨unnamed, named'⟩

theorem Arrow.Stays.shown {a b : Arrow} {name : String} (stays : a.Stays b)
    (named : a.name = some name) (shows : name ≠ "") : b.name = some name := by
  rcases stays.name with kept | ⟨unnamed, _⟩
  · exact kept.trans named
  · simp [givenName_eq_none_iff, named, shows] at unnamed

namespace Graph

/-- Each arrow of the first graph has become the arrow at its place in the second. -/
def Grows (g h : Graph) : Prop :=
  ∀ (i : Nat) (a : Arrow), g.arrows[i]? = some a → ∃ b, h.arrows[i]? = some b ∧ a.Stays b

variable {g h k : Graph}

theorem Grows.refl (g : Graph) : g.Grows g :=
  fun _ a here => ⟨a, here, .refl a⟩

theorem Grows.trans (first : g.Grows h) (second : h.Grows k) : g.Grows k := by
  intro i a here
  obtain ⟨b, there, stays⟩ := first i a here
  obtain ⟨c, last, stays'⟩ := second i b there
  exact ⟨c, last, stays.trans stays'⟩

theorem grows_add (g : Graph) (a : Arrow) : g.Grows (g.add a) := by
  intro i b here
  refine ⟨b, ?_, .refl b⟩
  rw [arrows_add, List.getElem?_append_left (List.getElem?_eq_some_iff.mp here).1]
  exact here

theorem grows_nameEdge {source target : String} {a : Arrow} (name : String)
    (found : g.edge? source target = some a) (unnamed : a.givenName = none) :
    g.Grows (g.nameEdge name source target) := by
  obtain ⟨before, after, whole, named⟩ := nameEdge_split name found
  intro i b here
  rw [whole] at here
  rw [named]
  rcases Nat.lt_trichotomy i before.length with less | rfl | more
  · rw [List.getElem?_append_left less] at here ⊢
    exact ⟨b, here, .refl b⟩
  · obtain rfl : a = b := by simpa using here
    exact ⟨{ a with name := some name }, by simp, ⟨rfl, rfl, .inr ⟨unnamed, rfl⟩⟩⟩
  · obtain ⟨j, rfl⟩ := Nat.exists_eq_add_of_lt more
    have place : before.length + j + 1 - before.length = j + 1 := by omega
    rw [List.getElem?_append_right (by omega), place, List.getElem?_cons_succ] at here ⊢
    exact ⟨b, here, .refl b⟩

theorem grows_attempt (g : Graph) (a : Arrow) : g.Grows (g.attempt a).1 := by
  have outcome := g.attempt_outcome a
  generalize g.attempt a = result at outcome ⊢
  cases outcome with
  | refused => exact .refl g
  | present => exact .refl g
  | added => exact grows_add g a
  | named _ _ found unnamed => exact grows_nameEdge _ found unnamed

theorem Strokes.grows {may : Graph → Arrow → Prop} (drawn : Strokes may g h) : g.Grows h :=
  drawn.keep (.refl g) fun k a grown _ => grown.trans (grows_attempt k a)

theorem Grows.mem {a : Arrow} (grown : g.Grows h) (member : a ∈ g.arrows) :
    ∃ b ∈ h.arrows, a.Stays b := by
  obtain ⟨i, here⟩ := List.mem_iff_getElem?.mp member
  obtain ⟨b, there, stays⟩ := grown i a here
  exact ⟨b, List.mem_of_getElem? there, stays⟩

theorem ends_eq_flatMap (g : Graph) : g.ends = g.edges.flatMap fun edge => [edge.1, edge.2] := by
  simp [ends, edges, List.flatMap_map]

/-- Names are no part of an edge, so the old edges are the first ones of the grown graph. -/
theorem Grows.edges_prefix (grown : g.Grows h) : g.edges <+: h.edges := by
  rw [List.prefix_iff_getElem?]
  intro i inside
  have here : i < g.arrows.length := by simpa [edges] using inside
  obtain ⟨b, there, stays⟩ := grown i g.arrows[i] (List.getElem?_eq_getElem here)
  simp [edges, there, stays.source, stays.target]

theorem Grows.ends_prefix (grown : g.Grows h) : g.ends <+: h.ends := by
  rw [ends_eq_flatMap, ends_eq_flatMap]
  exact grown.edges_prefix.flatMap _

theorem Grows.edge {source target : String} (grown : g.Grows h) (edge : g.Edge source target) :
    h.Edge source target :=
  grown.edges_prefix.subset edge

theorem Grows.object {object : String} (grown : g.Grows h) (member : object ∈ g.ends) :
    object ∈ h.ends :=
  grown.ends_prefix.subset member

theorem Grows.has {a : Arrow} (grown : g.Grows h) (shows : a.name ≠ some "") (has : g.Has a) :
    h.Has a := by
  obtain ⟨b, hb, starts, ends, named⟩ := has
  obtain ⟨c, hc, stays⟩ := grown.mem hb
  refine ⟨c, hc, stays.source.trans starts, stays.target.trans ends, ?_⟩
  cases asked : a.name with
  | none => exact .inl rfl
  | some name =>
    have shown : name ≠ "" := by
      rintro rfl
      exact shows asked
    have same : b.name = some name := by simpa [asked] using named
    exact .inr (stays.shown same shown)

end Graph
end ArrowGraph
