import ArrowGraph.Graph.Drawing
import Mathlib.Data.List.Nodup
import Mathlib.Logic.Relation

/-! Strokes: single attempts to draw an arrow. Every change of a graph is a row of strokes, and a
stroke does one of three things: nothing, one more arrow, or a name for an edge that shows none. -/
namespace ArrowGraph

def Arrow.labels (a : Arrow) : List String :=
  a.source :: a.target :: a.name.toList

namespace Graph

def names (g : Graph) : List String :=
  g.arrows.filterMap Arrow.name

def edges (g : Graph) : List (String × String) :=
  g.arrows.map fun a => (a.source, a.target)

def Edge (g : Graph) (source target : String) : Prop :=
  (source, target) ∈ g.edges

/-- Try to draw an arrow, under its name if it has one. -/
def attempt (g : Graph) (a : Arrow) : Graph × Notice :=
  match a.name with
  | none => g.draw a.source a.target
  | some name => g.drawNamed name a.source a.target

/-- The arrow can be drawn, as far as names and objects are to be kept apart. -/
structure Free (g : Graph) (a : Arrow) : Prop where
  source : a.source ∉ g.names
  target : a.target ∉ g.names
  unused : ∀ name, a.name = some name → name ∉ g.names
  noObject : ∀ name, a.name = some name → name ∉ g.ends ∧ name ≠ a.source ∧ name ≠ a.target

/-- Some arrow has the ends of the given one, and its name if it has one. -/
def Has (g : Graph) (a : Arrow) : Prop :=
  ∃ b ∈ g.arrows, b.source = a.source ∧ b.target = a.target ∧ (a.name = none ∨ b.name = a.name)

theorem mem_names {g : Graph} {name : String} :
    name ∈ g.names ↔ ∃ a ∈ g.arrows, a.name = some name := by
  simp [names]

theorem edge_iff {g : Graph} {source target : String} :
    g.Edge source target ↔ ∃ a ∈ g.arrows, a.source = source ∧ a.target = target := by
  simp [Edge, edges]

theorem hasName_eq_decide (g : Graph) (name : String) : g.hasName name = decide (name ∈ g.names) := by
  rw [Bool.eq_iff_iff, hasName_iff, decide_eq_true_eq, mem_names]

theorem hasObject_eq_decide (g : Graph) (object : String) :
    g.hasObject object = decide (object ∈ g.ends) := by
  rw [Bool.eq_iff_iff, hasObject_iff, decide_eq_true_eq, mem_ends]

theorem edge?_eq_none_iff {g : Graph} {source target : String} :
    g.edge? source target = none ↔ ¬ g.Edge source target := by
  rw [edge?_none_iff, edge_iff]
  constructor
  · rintro absent ⟨a, ha, starts, ends⟩
    exact absent a ha starts ends
  · intro absent a ha starts ends
    exact absent ⟨a, ha, starts, ends⟩

theorem mem_ends_of_edge {g : Graph} {source target : String} (edge : g.Edge source target) :
    source ∈ g.ends ∧ target ∈ g.ends := by
  obtain ⟨a, ha, rfl, rfl⟩ := edge_iff.mp edge
  exact ⟨mem_ends.mpr ⟨a, ha, .inl rfl⟩, mem_ends.mpr ⟨a, ha, .inr rfl⟩⟩

theorem mem_ends_of_leads {g : Graph} {x y : String} (leads : Relation.TransGen g.Edge x y) :
    x ∈ g.ends ∧ y ∈ g.ends := by
  obtain ⟨_, first, _⟩ := Relation.TransGen.head'_iff.mp leads
  obtain ⟨_, _, last⟩ := Relation.TransGen.tail'_iff.mp leads
  exact ⟨(mem_ends_of_edge first).1, (mem_ends_of_edge last).2⟩

theorem Has.edge {g : Graph} {a : Arrow} (has : g.Has a) : g.Edge a.source a.target := by
  obtain ⟨b, hb, starts, ends, _⟩ := has
  exact edge_iff.mpr ⟨b, hb, starts, ends⟩

theorem has_iff_edge {g : Graph} {source target : String} :
    g.Has ⟨source, target, none⟩ ↔ g.Edge source target := by
  simp [Has, edge_iff]

@[simp] theorem names_add (g : Graph) (a : Arrow) :
    (g.add a).names = g.names ++ a.name.toList := by
  cases h : a.name <;> simp [names, h]

@[simp] theorem edges_add (g : Graph) (a : Arrow) :
    (g.add a).edges = g.edges ++ [(a.source, a.target)] := by
  simp [edges]

@[simp] theorem ends_add (g : Graph) (a : Arrow) :
    (g.add a).ends = g.ends ++ [a.source, a.target] := by
  simp [ends]

theorem nameFirst_append (name source target : String) {before after : List Arrow} {a : Arrow}
    (none_before : ∀ b ∈ before, b.sameEdge ⟨source, target, none⟩ = false)
    (here : a.sameEdge ⟨source, target, none⟩ = true) :
    nameFirst name source target (before ++ a :: after) =
      before ++ { a with name := some name } :: after := by
  induction before with
  | nil => simp [nameFirst, here]
  | cons b before ih =>
    have other := none_before b (List.mem_cons_self ..)
    have rest := ih fun c hc => none_before c (List.mem_cons_of_mem _ hc)
    simp [nameFirst, other, rest]

theorem nameEdge_split {g : Graph} {source target : String} {a : Arrow} (name : String)
    (found : g.edge? source target = some a) :
    ∃ before after, g.arrows = before ++ a :: after ∧
      (g.nameEdge name source target).arrows =
        before ++ { a with name := some name } :: after := by
  obtain ⟨here, before, after, whole, none_before⟩ := List.find?_eq_some_iff_append.mp found
  refine ⟨before, after, whole, ?_⟩
  rw [nameEdge, whole]
  exact nameFirst_append name source target (by simpa using none_before) here

@[simp] theorem edges_nameEdge (g : Graph) (name source target : String) :
    (g.nameEdge name source target).edges = g.edges := by
  simp only [edges, nameEdge]
  induction g.arrows with
  | nil => rfl
  | cons a as ih =>
    rw [nameFirst]
    split <;> simp [ih]

/-- The names after naming an edge are the old ones, less a name that did not show, and the new
one. -/
theorem names_nameEdge {g : Graph} {source target : String} {a : Arrow} (name : String)
    (found : g.edge? source target = some a) :
    ∃ before after, g.names = before ++ a.name.toList ++ after ∧
      (g.nameEdge name source target).names = before ++ name :: after := by
  obtain ⟨before, after, whole, named⟩ := nameEdge_split name found
  refine ⟨before.filterMap Arrow.name, after.filterMap Arrow.name, ?_, ?_⟩
  · cases h : a.name <;> simp [Graph.names, whole, h]
  · simp [Graph.names, named]

/-- All that can come of an attempt to draw an arrow. -/
inductive Attempt (g : Graph) (a : Arrow) : Graph × Notice → Prop where
  | refused {notice : Notice} (failure : notice.isSuccess = false) : Attempt g a (g, notice)
  | present {b : Arrow} (found : g.edge? a.source a.target = some b)
      (same : a.name = none ∨ b.name = a.name) : Attempt g a (g, .present b)
  | added (free : g.Free a) (absent : g.edge? a.source a.target = none) :
      Attempt g a (g.add a, .drew a)
  | named {name : String} {b : Arrow} (free : g.Free a) (asked : a.name = some name)
      (found : g.edge? a.source a.target = some b) (unnamed : b.givenName = none) :
      Attempt g a (g.nameEdge name a.source a.target, .named { b with name := some name })

theorem draw_outcome (g : Graph) (source target : String) :
    Attempt g ⟨source, target, none⟩ (g.draw source target) := by
  unfold draw
  split
  · exact .refused rfl
  · rename_i ends_free
    simp only [hasName_eq_decide, Bool.or_eq_true, decide_eq_true_eq, not_or] at ends_free
    split
    · rename_i b found
      exact .present found (.inl rfl)
    · rename_i absent
      exact .added ⟨ends_free.1, ends_free.2, nofun, nofun⟩ absent

theorem drawNamed_outcome (g : Graph) (name source target : String) :
    Attempt g ⟨source, target, some name⟩ (g.drawNamed name source target) := by
  unfold drawNamed
  split
  · exact .refused rfl
  · rename_i no_object
    simp only [hasObject_eq_decide, Bool.or_eq_true, decide_eq_true_eq, not_or] at no_object
    split
    · exact .refused rfl
    · rename_i ends_free
      simp only [hasName_eq_decide, Bool.or_eq_true, decide_eq_true_eq, not_or] at ends_free
      have free (unused : ¬ g.hasName name = true) : g.Free ⟨source, target, some name⟩ := by
        rw [hasName_eq_decide, decide_eq_true_eq] at unused
        refine ⟨ends_free.1, ends_free.2, ?_, ?_⟩
        · rintro _ ⟨⟩
          exact unused
        · rintro _ ⟨⟩
          exact ⟨no_object.1.1, no_object.1.2, no_object.2⟩
      split
      · rename_i b found
        split
        · rename_i same
          exact .present found (.inr same)
        · split
          · exact .refused rfl
          · rename_i unnamed
            split
            · exact .refused rfl
            · rename_i unused
              exact .named (free unused) rfl found unnamed
      · rename_i absent
        split
        · exact .refused rfl
        · rename_i unused
          exact .added (free unused) absent

theorem attempt_outcome (g : Graph) (a : Arrow) : Attempt g a (g.attempt a) := by
  obtain ⟨source, target, name⟩ := a
  cases name with
  | none => exact draw_outcome g source target
  | some name => exact drawNamed_outcome g name source target

theorem isSuccess_draw_iff {g : Graph} {source target : String} :
    (g.draw source target).2.isSuccess = true ↔ source ∉ g.names ∧ target ∉ g.names := by
  simp only [draw, hasName_eq_decide, Bool.or_eq_true, decide_eq_true_eq]
  by_cases taken : source ∈ g.names ∨ target ∈ g.names
  · rw [if_pos taken, ← not_or]
    simp [Notice.isSuccess, taken]
  · rw [if_neg taken, ← not_or]
    cases g.edge? source target <;> simp [Notice.isSuccess, taken]

/-- An edge that is missing or shows no name can be given a name that is not in use, and the edge
that has the name can be given it again. -/
theorem isSuccess_drawNamed_iff {g : Graph} {name source target : String} :
    (g.drawNamed name source target).2.isSuccess = true ↔
      (name ∉ g.ends ∧ name ≠ source ∧ name ≠ target) ∧ (source ∉ g.names ∧ target ∉ g.names) ∧
        ((g.edge? source target).bind Arrow.name = some name ∨
          (g.edge? source target).bind Arrow.givenName = none ∧ name ∉ g.names) := by
  simp only [drawNamed, hasName_eq_decide, hasObject_eq_decide, Bool.or_eq_true, decide_eq_true_eq]
  by_cases object : (name ∈ g.ends ∨ name = source) ∨ name = target
  · rw [if_pos object]
    simp only [Notice.isSuccess, Bool.false_eq_true, false_iff]
    tauto
  · rw [if_neg object]
    by_cases taken : source ∈ g.names ∨ target ∈ g.names
    · rw [if_pos taken]
      simp only [Notice.isSuccess, Bool.false_eq_true, false_iff]
      tauto
    · rw [if_neg taken]
      have free : (name ∉ g.ends ∧ name ≠ source ∧ name ≠ target) ∧
          source ∉ g.names ∧ target ∉ g.names := by tauto
      simp only [free, true_and, not_false_eq_true, ne_eq]
      cases g.edge? source target with
      | none => by_cases used : name ∈ g.names <;> simp [Notice.isSuccess, used]
      | some b =>
        by_cases same : b.name = some name
        · simp [Notice.isSuccess, same]
        · cases shown : b.givenName with
          | none => by_cases used : name ∈ g.names <;> simp [Notice.isSuccess, same, shown, used]
          | some old => simp [Notice.isSuccess, same, shown]

theorem attempt_free {g : Graph} {a : Arrow} (free : g.Free a)
    (absent : ¬ g.Edge a.source a.target) : g.attempt a = (g.add a, .drew a) := by
  obtain ⟨source, target, name⟩ := a
  have missing : g.edge? source target = none := edge?_eq_none_iff.mpr absent
  have noSource : g.hasName source = false := by simpa [hasName_eq_decide] using free.source
  have noTarget : g.hasName target = false := by simpa [hasName_eq_decide] using free.target
  cases name with
  | none => simp [attempt, draw, noSource, noTarget, missing]
  | some name =>
    have unused : g.hasName name = false := by simpa [hasName_eq_decide] using free.unused name rfl
    obtain ⟨noObject, noStart, noEnd⟩ := free.noObject name rfl
    have noObject : g.hasObject name = false := by simpa [hasObject_eq_decide] using noObject
    simp only at noStart noEnd
    simp [attempt, drawNamed, noObject, noStart, noEnd, noSource, noTarget, missing, unused]

theorem has_of_attempt {g : Graph} {a : Arrow} (success : (g.attempt a).2.isSuccess = true) :
    (g.attempt a).1.Has a := by
  have outcome := g.attempt_outcome a
  generalize g.attempt a = result at outcome success ⊢
  cases outcome with
  | refused failure =>
    rw [failure] at success
    cases success
  | present found same =>
    obtain ⟨member, starts, ends⟩ := edge?_some found
    exact ⟨_, member, starts, ends, same⟩
  | added => exact ⟨a, by simp, rfl, rfl, .inr rfl⟩
  | @named name b _ asked found _ =>
    obtain ⟨before, after, _, named⟩ := nameEdge_split name found
    obtain ⟨_, starts, ends⟩ := edge?_some found
    exact ⟨{ b with name := some name }, by simp [named], starts, ends, .inr asked.symm⟩

theorem mem_names_attempt {g : Graph} {a : Arrow} {name : String}
    (member : name ∈ (g.attempt a).1.names) : name ∈ g.names ∨ a.name = some name := by
  have outcome := g.attempt_outcome a
  generalize g.attempt a = result at outcome member
  cases outcome with
  | refused | present => exact .inl member
  | added => simpa [names_add] using member
  | @named asked _ _ given found _ =>
    obtain ⟨before, after, old, new⟩ := names_nameEdge asked found
    rw [new, List.mem_append, List.mem_cons] at member
    rw [old, List.append_assoc, List.mem_append, List.mem_append]
    rcases member with first | rfl | last
    · exact .inl (.inl first)
    · exact .inr given
    · exact .inl (.inr (.inr last))

theorem mem_ends_attempt {g : Graph} {a : Arrow} {object : String}
    (member : object ∈ (g.attempt a).1.ends) :
    object ∈ g.ends ∨ object = a.source ∨ object = a.target := by
  have outcome := g.attempt_outcome a
  generalize g.attempt a = result at outcome member
  cases outcome with
  | refused | present => exact .inl member
  | added => simpa [ends_add] using member
  | named => exact .inl (nameEdge_ends g _ _ _ ▸ member)

theorem edge_attempt {g : Graph} {a : Arrow} {source target : String}
    (edge : (g.attempt a).1.Edge source target) :
    g.Edge source target ∨ (source = a.source ∧ target = a.target) := by
  have outcome := g.attempt_outcome a
  generalize g.attempt a = result at outcome edge
  cases outcome with
  | refused | present => exact .inl edge
  | added => simpa [Edge] using edge
  | named =>
    rw [Edge, edges_nameEdge] at edge
    exact .inl edge

/-- One stroke. Which arrows may be tried can depend on what has been drawn. -/
def Stroke (may : Graph → Arrow → Prop) (g h : Graph) : Prop :=
  ∃ a, may g a ∧ (g.attempt a).1 = h

def Strokes (may : Graph → Arrow → Prop) : Graph → Graph → Prop :=
  Relation.ReflTransGen (Stroke may)

variable {may : Graph → Arrow → Prop} {g h : Graph}

theorem strokes_of_attempt {a : Arrow} (allowed : may g a) : Strokes may g (g.attempt a).1 :=
  .single ⟨a, allowed, rfl⟩

theorem Strokes.mono {wider : Graph → Arrow → Prop} (drawn : Strokes may g h)
    (weaker : ∀ k a, may k a → wider k a) : Strokes wider g h := by
  refine Relation.ReflTransGen.mono ?_ _ _ drawn
  rintro k l ⟨a, allowed, result⟩
  exact ⟨a, weaker k a allowed, result⟩

/-- What each stroke keeps, a row of strokes keeps. -/
@[elab_as_elim]
theorem Strokes.keep {kept : Graph → Prop} (drawn : Strokes may g h) (start : kept g)
    (step : ∀ k a, kept k → may k a → kept (k.attempt a).1) : kept h := by
  induction drawn with
  | refl => exact start
  | tail _ stroke ih =>
    obtain ⟨a, allowed, rfl⟩ := stroke
    exact step _ a ih allowed

end Graph
end ArrowGraph
