import ArrowGraph.Proofs.Graph.Part
import ArrowGraph.Proofs.Session.Lasting

/-! Declarations: the statements that draw between objects. Their order does not matter. When they
all succeed in one order, all of them hold in the graph that they leave; in any other order they
draw parts of that graph, without refusal, and in the end all of it. -/
namespace ArrowGraph

open Statement (performEach)

/-- The statement draws between objects, and the name that it gives shows. -/
def Statement.Declares : Statement → Prop
  | draw .. | drawChain _ => True
  | drawNamed name .. | drawNamedChain name _ => name ≠ ""
  | _ => False

theorem Statement.Declares.shows {s : Statement} (declares : s.Declares) :
    ∀ name ∈ s.givenNames, name ≠ "" := by
  cases s <;> simp_all [Declares, givenNames]

namespace Graph

variable {g h : Graph}

theorem PartOf.drawEach {pairs : List (String × String)} (part : g.PartOf h)
    (edges : ∀ pair ∈ pairs, h.Edge pair.1 pair.2) :
    (∀ n ∈ (g.drawEach pairs).2, n.isSuccess = true) ∧ (g.drawEach pairs).1.PartOf h := by
  induction pairs generalizing g with
  | nil => exact ⟨nofun, part⟩
  | cons pair pairs ih =>
    have has : h.Has ⟨pair.1, pair.2, none⟩ := has_iff_edge.mpr (edges pair (List.mem_cons_self ..))
    obtain ⟨first, now⟩ := part.attempt has
    obtain ⟨others, last⟩ := ih now fun other member => edges other (List.mem_cons_of_mem _ member)
    exact ⟨List.forall_mem_cons.mpr ⟨first, others⟩, last⟩

theorem PartOf.drawRow {objects : List String} (part : g.PartOf h) (linked : h.Linked objects) :
    (g.drawRow objects).2.ok = true ∧ (g.drawRow objects).1.PartOf h := by
  obtain ⟨successes, now⟩ := part.drawEach linked
  refine ⟨?_, now⟩
  simpa [Graph.drawRow, Report.merge_ok, Notice.report] using successes

theorem PartOf.drawNamedRow {name : String} {objects : List String} (part : g.PartOf h)
    (linked : h.Linked objects) (spanned : h.Spanned name objects) :
    Succeeds (g.drawNamedRow name objects).outcome ∧
      (g.drawNamedRow name objects).graph.PartOf h := by
  obtain ⟨links, between⟩ := part.drawRow linked
  obtain ⟨first, last, starts, ends, has⟩ := spanned
  obtain ⟨named, now⟩ := between.attempt has
  unfold Graph.drawNamedRow
  generalize g.drawRow objects = drawn at links named now ⊢
  simp only [links, Bool.not_true, Bool.false_eq_true, if_false, starts, ends]
  have named : (drawn.1.drawNamed name first last).2.isSuccess = true := named
  exact ⟨⟨_, rfl, by simp [Report.merge_ok, links, Notice.report, named]⟩, now⟩

theorem PartOf.perform {s : Statement} (part : g.PartOf h) (declares : s.Declares)
    (holds : s.Holds h) : Succeeds (s.perform g).outcome ∧ (s.perform g).graph.PartOf h := by
  cases s with
  | draw source target =>
    obtain ⟨success, now⟩ := part.attempt holds
    exact ⟨⟨_, rfl, success⟩, now⟩
  | drawNamed name source target =>
    obtain ⟨success, now⟩ := part.attempt holds
    exact ⟨⟨_, rfl, success⟩, now⟩
  | drawChain objects =>
    obtain ⟨success, now⟩ := part.drawRow holds
    exact ⟨⟨_, rfl, success⟩, now⟩
  | drawNamedChain name objects => exact part.drawNamedRow holds.1 holds.2
  | skip | describe | findRoute | compose | composeNamed | composeChain | composeNamedChain
  | unspecified => cases declares

theorem PartOf.performEach {ss : List Statement} (part : g.PartOf h)
    (declared : ∀ s ∈ ss, s.Declares) (holds : ∀ s ∈ ss, s.Holds h) :
    (performEach g ss).2 = .ok true ∧ (performEach g ss).1.PartOf h := by
  induction ss generalizing g with
  | nil => exact ⟨rfl, part⟩
  | cons s ss ih =>
    obtain ⟨⟨report, done, good⟩, between⟩ :=
      part.perform (declared s (List.mem_cons_self ..)) (holds s (List.mem_cons_self ..))
    obtain ⟨others, now⟩ := ih between (fun t member => declared t (List.mem_cons_of_mem _ member))
      fun t member => holds t (List.mem_cons_of_mem _ member)
    rw [performEach_ok done]
    refine ⟨?_, now⟩
    rw [others, good]
    rfl

/-- Declarations that succeed in one order succeed in every order, also with repetitions, and draw
the same arrows. -/
theorem declared_alike {ss ts : List Statement} (proper : g.Proper)
    (declared : ∀ s ∈ ss, s.Declares) (same : ∀ s, s ∈ ts ↔ s ∈ ss)
    (success : (performEach g ss).2 = .ok true) :
    (performEach g ts).2 = .ok true ∧
      (performEach g ts).1.arrows.Perm (performEach g ss).1.arrows := by
  have declared' : ∀ t ∈ ts, t.Declares := fun t member => declared t ((same t).mp member)
  have shows {us : List Statement} (declared : ∀ s ∈ us, s.Declares) :
      ∀ s ∈ us, ∀ name ∈ s.givenNames, name ≠ "" := fun s member => (declared s member).shows
  obtain ⟨later, holds⟩ :=
    holds_of_performEach proper (shows declared) (Prod.ext rfl success)
  obtain ⟨success', part⟩ :=
    later.partOf.performEach declared' fun t member => holds t ((same t).mp member)
  obtain ⟨later', holds'⟩ :=
    holds_of_performEach proper (shows declared') (Prod.ext rfl success')
  obtain ⟨_, part'⟩ :=
    later'.partOf.performEach declared fun s member => holds' s ((same s).mpr member)
  exact ⟨success', part.perm part'⟩

end Graph

theorem Command.statementsEach_singles (ss : List Statement) :
    statementsEach (ss.map .single) = ss := by
  induction ss with
  | nil => rfl
  | cons s ss ih => rw [List.map_cons, statementsEach, statements, ih, List.singleton_append]

namespace Graph

variable {g : Graph}

/-- A batch of declarations that succeeds does so in any order, and leaves the same arrows. -/
theorem declarations_commute {ss ts : List Statement} (proper : g.Proper)
    (declared : ∀ s ∈ ss, s.Declares) (order : ss.Perm ts)
    (success : Succeeds ((Command.batch (ss.map .single)).apply g).outcome) :
    Succeeds ((Command.batch (ts.map .single)).apply g).outcome ∧
      ((Command.batch (ts.map .single)).apply g).graph.arrows.Perm
        ((Command.batch (ss.map .single)).apply g).graph.arrows := by
  have flat (us : List Statement) : (Command.batch (us.map .single)).statements = us :=
    Command.statementsEach_singles us
  rw [Command.succeeds_apply_iff, flat] at success
  rw [Command.succeeds_apply_iff, Command.apply_graph, Command.apply_graph, flat, flat]
  exact declared_alike proper declared (fun s => order.mem_iff.symm) success

/-- In one order the middle link is drawn and then named, in the other it is drawn under its name
and then found; the name of the whole row is given at the end or at the start. -/
theorem declarations_commute_row :
    let g : Graph := ⟨[⟨"x", "a", some "k"⟩]⟩
    let ss : List Statement := [.drawChain ["a", "b", "c", "a"], .drawNamed "f" "b" "c",
      .drawNamedChain "h" ["x", "b", "c"], .draw "x" "c"]
    let ts : List Statement := [.draw "x" "c", .drawNamed "f" "b" "c",
      .drawNamedChain "h" ["x", "b", "c"], .drawChain ["a", "b", "c", "a"]]
    g.Proper ∧ (∀ s ∈ ss, s.Declares) ∧ ss.Perm ts ∧
      Succeeds ((Command.batch (ss.map .single)).apply g).outcome ∧
      ((Command.batch (ss.map .single)).apply g).graph.arrows =
        [⟨"x", "a", some "k"⟩, ⟨"a", "b", none⟩, ⟨"b", "c", some "f"⟩, ⟨"c", "a", none⟩,
          ⟨"x", "b", none⟩, ⟨"x", "c", some "h"⟩] ∧
      ((Command.batch (ts.map .single)).apply g).graph.arrows =
        [⟨"x", "a", some "k"⟩, ⟨"x", "c", some "h"⟩, ⟨"b", "c", some "f"⟩, ⟨"x", "b", none⟩,
          ⟨"a", "b", none⟩, ⟨"c", "a", none⟩] ∧
      Succeeds ((Command.batch (ts.map .single)).apply g).outcome ∧
      ((Command.batch (ts.map .single)).apply g).graph.arrows.Perm
        ((Command.batch (ss.map .single)).apply g).graph.arrows := by
  intro g ss ts
  have proper : g.Proper := ⟨⟨by decide, by decide, by decide⟩, by decide⟩
  have declared : ∀ s ∈ ss, s.Declares := by simp [ss, Statement.Declares]
  have order : ss.Perm ts := by decide
  have success : Succeeds ((Command.batch (ss.map .single)).apply g).outcome :=
    Command.succeeds_apply_iff.mpr (by decide +kernel)
  refine ⟨proper, declared, order, success, by decide +kernel, by decide +kernel, ?_⟩
  exact declarations_commute proper declared order success

end Graph
end ArrowGraph
