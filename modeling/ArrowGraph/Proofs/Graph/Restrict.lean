import ArrowGraph.Proofs.Graph.Stroke
import Mathlib.Data.List.Find
import Mathlib.Data.Set.Defs

/-! The arrows over a set of words. When each arrow has all of its words in the set or none of them,
a look-up by a word of the set meets only the arrows inside, and drawing between such words takes
place among them. So it makes no difference whether the arrows outside are there. -/
namespace ArrowGraph

def Arrow.Inside (S : Set String) (a : Arrow) : Prop :=
  ∀ word ∈ a.labels, word ∈ S

instance (S : Set String) [DecidablePred (· ∈ S)] : DecidablePred (Arrow.Inside S) :=
  fun a => inferInstanceAs (Decidable (∀ word ∈ a.labels, word ∈ S))

theorem Arrow.inside_iff {S : Set String} {a : Arrow} :
    a.Inside S ↔ a.source ∈ S ∧ a.target ∈ S ∧ ∀ name, a.name = some name → name ∈ S := by
  simp [Inside, labels]

namespace Graph

/-- No arrow has words both in the set and outside. -/
def Splits (S : Set String) (g : Graph) : Prop :=
  ∀ a ∈ g.arrows, a.Inside S ∨ ∀ word ∈ a.labels, word ∉ S

section

variable (S : Set String) [DecidablePred (· ∈ S)]

def restrict (g : Graph) : Graph :=
  ⟨g.arrows.filter fun a => a.Inside S⟩

def outside (g : Graph) : List Arrow :=
  g.arrows.filter fun a => ¬ a.Inside S

end

variable {S : Set String} {g h : Graph} {a : Arrow}

theorem Splits.inside {word : String} (split : g.Splits S) (member : a ∈ g.arrows)
    (label : word ∈ a.labels) (known : word ∈ S) : a.Inside S := by
  rcases split a member with inside | apart
  · exact inside
  · exact absurd known (apart word label)

theorem Splits.of_source (split : g.Splits S) (member : a ∈ g.arrows) (known : a.source ∈ S) :
    a.Inside S :=
  split.inside member (by simp [Arrow.labels]) known

theorem Splits.of_name {name : String} (split : g.Splits S) (member : a ∈ g.arrows)
    (named : a.name = some name) (known : name ∈ S) : a.Inside S :=
  split.inside member (by simp [Arrow.labels, named]) known

theorem Splits.of_touches {object : String} (split : g.Splits S) (member : a ∈ g.arrows)
    (touched : a.touches object = true) (known : object ∈ S) : a.Inside S := by
  simp only [Arrow.touches, Bool.or_eq_true, decide_eq_true_eq] at touched
  refine split.inside member ?_ known
  simp only [Arrow.labels, List.mem_cons]
  tauto

theorem mem_of_mem_onward {seen : List String} {here next : String} (split : g.Splits S)
    (known : here ∈ S) (reached : next ∈ g.onward seen here) : next ∈ S := by
  obtain ⟨_, a, member, rfl, rfl⟩ := mem_onward.mp reached
  exact (Arrow.inside_iff.mp (split.of_source member known)).2.1

/-! Look-ups. -/

variable [DecidablePred (· ∈ S)] {name object source target : String}

theorem find?_restrict {p : Arrow → Bool} (within : ∀ a ∈ g.arrows, p a = true → a.Inside S) :
    (g.restrict S).arrows.find? p = g.arrows.find? p := by
  rw [restrict, List.find?_filter]
  refine List.find?_congr fun a member => ?_
  have inside := within a member
  by_cases accepted : p a = true
  · simp [accepted, inside accepted]
  · simp [accepted]

theorem filter_restrict {p : Arrow → Bool} (within : ∀ a ∈ g.arrows, p a = true → a.Inside S) :
    (g.restrict S).arrows.filter p = g.arrows.filter p := by
  rw [restrict, List.filter_filter]
  refine List.filter_congr fun a member => ?_
  have inside := within a member
  by_cases accepted : p a = true
  · simp [accepted, inside accepted]
  · simp [accepted]

theorem arrow?_restrict (split : g.Splits S) (known : name ∈ S) :
    (g.restrict S).arrow? name = g.arrow? name := by
  refine find?_restrict fun a member named => ?_
  exact split.of_name member (by simpa using named) known

theorem hasName_restrict (split : g.Splits S) (known : name ∈ S) :
    (g.restrict S).hasName name = g.hasName name := by
  rw [hasName, hasName, arrow?_restrict split known]

theorem edge?_restrict (split : g.Splits S) (known : source ∈ S) :
    (g.restrict S).edge? source target = g.edge? source target := by
  refine find?_restrict fun a member same => ?_
  have starts : a.source = source ∧ a.target = target := by simpa [Arrow.sameEdge] using same
  exact split.of_source member (starts.1 ▸ known)

theorem touching_restrict (split : g.Splits S) (known : object ∈ S) :
    (g.restrict S).touching object = g.touching object :=
  filter_restrict fun _ member touched => split.of_touches member touched known

theorem hasObject_restrict (split : g.Splits S) (known : object ∈ S) :
    (g.restrict S).hasObject object = g.hasObject object := by
  have found (k : Graph) : k.hasObject object = !(k.touching object).isEmpty := by
    rw [Bool.eq_iff_iff]
    simp [hasObject, touching]
  rw [found, found, touching_restrict split known]

/-! Routes. -/

theorem onward_restrict {seen : List String} {here : String} (split : g.Splits S)
    (known : here ∈ S) : (g.restrict S).onward seen here = g.onward seen here := by
  rw [onward, onward, filter_restrict]
  intro a member leads
  simp only [leadsOn, Bool.and_eq_true, decide_eq_true_eq] at leads
  exact split.of_source member (leads.1 ▸ known)

/-- A search that starts inside never leaves. -/
theorem search_restrict {destination : String} {seen : List String} {trails : List Trail}
    (split : g.Splits S) (known : ∀ t ∈ trails, t.here ∈ S) :
    (g.restrict S).search destination seen trails = g.search destination seen trails := by
  fun_induction search g destination seen trails with
  | case1 => rw [search]
  | case2 seen t trails fresh reached =>
    rw [search, onward_restrict split (known t (List.mem_cons_self ..))]
    exact if_pos reached
  | case3 seen t trails fresh unreached ih =>
    have here := known t (List.mem_cons_self ..)
    rw [search, onward_restrict split here]
    refine (if_neg unreached).trans (ih ?_)
    intro u member
    rcases List.mem_append.mp member with old | new
    · exact known u (List.mem_cons_of_mem _ old)
    · obtain ⟨next, reached, rfl⟩ := List.mem_map.mp new
      exact mem_of_mem_onward split here reached

theorem route_restrict {origin destination : String} (split : g.Splits S) (known : origin ∈ S) :
    (g.restrict S).route origin destination = g.route origin destination := by
  rw [route, route, search_restrict split]
  simpa using known

theorem describe_restrict (split : g.Splits S) (known : name ∈ S) :
    (g.restrict S).describe name = g.describe name := by
  rw [describe, describe, arrow?_restrict split known, hasObject_restrict split known,
    touching_restrict split known]

theorem findRoute_restrict {origin destination : String} (split : g.Splits S)
    (starts : origin ∈ S) (ends : destination ∈ S) :
    (g.restrict S).findRoute origin destination = g.findRoute origin destination := by
  rw [findRoute, findRoute, hasObject_restrict split starts, hasObject_restrict split ends,
    route_restrict split starts]

/-! Drawing. -/

/-- What was done to the graph was done to its arrows inside as it is when they are alone, and it
came to the same. -/
structure Apart (S : Set String) [DecidablePred (· ∈ S)] {α : Type} (g : Graph)
    (whole alone : Graph × α) : Prop where
  splits : whole.1.Splits S
  inside : whole.1.restrict S = alone.1
  outside : whole.1.outside S = g.outside S
  same : whole.2 = alone.2

variable {α β : Type}

theorem apart_unchanged (split : g.Splits S) (result : α) :
    Apart S g (g, result) (g.restrict S, result) :=
  ⟨split, rfl, rfl, rfl⟩

theorem Apart.trans {first first' : Graph × α} {second second' : Graph × β}
    (before : Apart S g first first') (after : Apart S first.1 second second') :
    Apart S g second second' :=
  ⟨after.splits, after.inside, after.outside.trans before.outside, after.same⟩

theorem Apart.map {whole alone : Graph × α} (apart : Apart S g whole alone) (f : α → β) :
    Apart S g (whole.1, f whole.2) (alone.1, f alone.2) :=
  ⟨apart.splits, apart.inside, apart.outside, congrArg f apart.same⟩

theorem apart_add (split : g.Splits S) (inside : a.Inside S) (result : α) :
    Apart S g (g.add a, result) ((g.restrict S).add a, result) := by
  refine ⟨?_, ?_, ?_, rfl⟩
  · intro b member
    rcases List.mem_append.mp member with old | new
    · exact split b old
    · obtain rfl := List.mem_singleton.mp new
      exact .inl inside
  · simp [restrict, add, inside]
  · simp [Graph.outside, inside]

theorem filter_nameFirst {as : List Arrow} (target : String) (split : (Graph.mk as).Splits S)
    (given : name ∈ S) (starts : source ∈ S) :
    (nameFirst name source target as).filter (fun a => a.Inside S) =
        nameFirst name source target (as.filter fun a => a.Inside S) ∧
      (nameFirst name source target as).filter (fun a => ¬ a.Inside S) =
        as.filter (fun a => ¬ a.Inside S) ∧
      (Graph.mk (nameFirst name source target as)).Splits S := by
  induction as with
  | nil => exact ⟨rfl, rfl, split⟩
  | cons a as ih =>
    obtain ⟨inside, outside, splits⟩ := ih fun b member => split b (List.mem_cons_of_mem _ member)
    by_cases same : a.sameEdge ⟨source, target, none⟩ = true
    · have ends : a.source = source ∧ a.target = target := by simpa [Arrow.sameEdge] using same
      have before := split.of_source (List.mem_cons_self ..) (ends.1 ▸ starts)
      have after : Arrow.Inside S { a with name := some name } := by
        rw [Arrow.inside_iff] at before ⊢
        simpa [before.1, before.2.1] using given
      simp only [nameFirst, same, if_true, List.filter_cons, before, after, decide_true,
        not_true_eq_false, decide_false, Bool.false_eq_true, if_false, true_and]
      intro b member
      rcases List.mem_cons.mp member with rfl | later
      · exact .inl after
      · exact split b (List.mem_cons_of_mem _ later)
    · refine ⟨?_, ?_, ?_⟩
      · by_cases here : a.Inside S <;> simp [nameFirst, same, here, inside]
      · by_cases here : a.Inside S <;> simpa [nameFirst, same, here] using outside
      · intro b member
        simp only [nameFirst, same, if_false, List.mem_cons, Bool.false_eq_true] at member
        rcases member with rfl | later
        · exact split b (List.mem_cons_self ..)
        · exact splits b later

theorem apart_nameEdge (split : g.Splits S) (given : name ∈ S) (starts : source ∈ S)
    (result : α) :
    Apart S g (g.nameEdge name source target, result)
      ((g.restrict S).nameEdge name source target, result) := by
  obtain ⟨inside, outside, splits⟩ := filter_nameFirst target split given starts
  exact ⟨splits, congrArg Graph.mk inside, outside, rfl⟩

theorem apart_draw (split : g.Splits S) (starts : source ∈ S) (ends : target ∈ S) :
    Apart S g (g.draw source target) ((g.restrict S).draw source target) := by
  have inside : Arrow.Inside S ⟨source, target, none⟩ := Arrow.inside_iff.mpr ⟨starts, ends, nofun⟩
  rw [draw, draw, hasName_restrict split starts, hasName_restrict split ends,
    edge?_restrict split starts]
  split
  · exact apart_unchanged split _
  · split
    · exact apart_unchanged split _
    · exact apart_add split inside _

theorem apart_drawNamed (split : g.Splits S) (given : name ∈ S) (starts : source ∈ S)
    (ends : target ∈ S) :
    Apart S g (g.drawNamed name source target) ((g.restrict S).drawNamed name source target) := by
  have inside : Arrow.Inside S ⟨source, target, some name⟩ :=
    Arrow.inside_iff.mpr ⟨starts, ends, fun _ same => Option.some.inj same ▸ given⟩
  rw [drawNamed, drawNamed, hasObject_restrict split given, hasName_restrict split starts,
    hasName_restrict split ends, hasName_restrict split given, edge?_restrict split starts]
  split
  · exact apart_unchanged split _
  · split
    · exact apart_unchanged split _
    · split
      · split
        · exact apart_unchanged split _
        · split
          · exact apart_unchanged split _
          · split
            · exact apart_unchanged split _
            · exact apart_nameEdge split given starts _
      · split
        · exact apart_unchanged split _
        · exact apart_add split inside _

theorem apart_attempt (split : g.Splits S) (inside : a.Inside S) :
    Apart S g (g.attempt a) ((g.restrict S).attempt a) := by
  obtain ⟨source, target, name⟩ := a
  obtain ⟨starts, ends, given⟩ := Arrow.inside_iff.mp inside
  cases name with
  | none => exact apart_draw split starts ends
  | some name => exact apart_drawNamed split (given name rfl) starts ends

end Graph
end ArrowGraph
