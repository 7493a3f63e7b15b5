import ArrowGraph.Proofs.Command.Holds

namespace ArrowGraph

open Relation (ReflTransGen)

/-- The effect is a success that leaves the graph as it was. -/
def Effect.Idle (g : Graph) (effect : Effect) : Prop :=
  ∃ report, effect = ⟨g, .ok report⟩ ∧ report.ok = true

namespace Graph

variable {g h : Graph} {name : Option String}

theorem isSuccess_describe_iff {name : String} :
    (g.describe name).isSuccess = true ↔ name ∈ g.names ∨ name ∈ g.ends := by
  rw [describe]
  split
  · rename_i a found
    have known : name ∈ g.names := mem_names.mpr ⟨a, arrow?_some found⟩
    simp [Notice.isSuccess, known]
  · rename_i absent
    have unknown : name ∉ g.names := by
      have missing : g.hasName name = false := by simp [hasName, absent]
      simpa [hasName_eq_decide] using missing
    by_cases object : name ∈ g.ends
    · simp [Notice.isSuccess, hasObject_eq_decide, object]
    · simp [Notice.isSuccess, hasObject_eq_decide, object, unknown]

theorem isSuccess_findRoute_iff {origin destination : String} :
    (g.findRoute origin destination).isSuccess = true ↔
      origin ∈ g.ends ∧ destination ∈ g.ends ∧ ReflTransGen g.Edge origin destination := by
  rw [findRoute, ← isSome_route_iff]
  by_cases starts : origin ∈ g.ends
  · by_cases ends : destination ∈ g.ends
    · cases g.route origin destination <;>
        simp [Notice.isSuccess, hasObject_eq_decide, starts, ends]
    · simp [Notice.isSuccess, hasObject_eq_decide, starts, ends]
  · simp [Notice.isSuccess, hasObject_eq_decide, starts]

theorem composeAll_row (whole : Arrow) {outer : String} {others : List String} {a : Arrow}
    (found : g.arrow? outer = some a) (source : whole.source = a.source)
    (steps : ∀ pair ∈ neighbours (outer :: others), g.Meeting pair.1 pair.2) :
    ∃ composite last, composeAll (whole :: others.filterMap g.arrow?) = .ok composite ∧
      composite.target = whole.target ∧
      (outer :: others).getLast?.bind g.arrow? = some last ∧ composite.source = last.source := by
  induction others generalizing outer a whole with
  | nil => exact ⟨whole, a, rfl, rfl, found, source⟩
  | cons inner others ih =>
    obtain ⟨a', b, foundOuter, foundInner, meet⟩ := steps (outer, inner) (List.mem_cons_self ..)
    obtain rfl : a = a' := Option.some.inj (found.symm.trans foundOuter)
    rw [List.filterMap_cons_some foundInner, composeAll_cons_cons, if_pos (meet.trans source.symm),
      List.getLast?_cons_cons]
    exact ih ⟨b.source, whole.target, none⟩ foundInner rfl
      fun pair member => steps pair (List.mem_cons_of_mem _ member)

theorem idle_attempt {a : Arrow} (legal : g.WellFormed) (has : g.Has a) :
    Effect.Idle g ⟨(g.attempt a).1, .ok (g.attempt a).2.report⟩ := by
  obtain ⟨b, present⟩ := legal.attempt_of_has has
  exact ⟨(Notice.present b).report, by rw [present], rfl⟩

theorem idle_composeInto {outer inner : String} (legal : g.WellFormed)
    (composed : g.Composed name outer inner) : (composeInto (drawAs name) g outer inner).Idle g := by
  obtain ⟨a, b, foundOuter, foundInner, meet, has⟩ := composed
  have drawn : composeInto (drawAs name) g outer inner =
      ⟨(g.attempt ⟨b.source, a.target, name⟩).1,
        .ok (g.attempt ⟨b.source, a.target, name⟩).2.report⟩ := by
    simp only [composeInto, foundOuter, foundInner, Arrow.compose, if_pos meet]
    rfl
  rw [drawn]
  exact idle_attempt legal has

theorem composeEach_of_composed {pairs : List (String × String)} (legal : g.WellFormed)
    (composed : ∀ pair ∈ pairs, g.Composed none pair.1 pair.2) :
    ∃ reports, g.composeEach pairs = (g, .ok reports) ∧ ∀ r ∈ reports, r.ok = true := by
  induction pairs with
  | nil => exact ⟨[], rfl, nofun⟩
  | cons pair pairs ih =>
    obtain ⟨report, first, good⟩ :=
      idle_composeInto legal (composed pair (List.mem_cons_self ..))
    obtain ⟨reports, others, allGood⟩ :=
      ih fun other member => composed other (List.mem_cons_of_mem _ member)
    refine ⟨report :: reports, ?_, List.forall_mem_cons.mpr ⟨good, allGood⟩⟩
    have first : composeInto draw g pair.1 pair.2 = ⟨g, .ok report⟩ := first
    simp [composeEach, first, others, Functor.map, Except.map]

theorem idle_composeRow {arrows : List String} (legal : g.WellFormed)
    (composed : g.RowComposed name arrows) : (composeRow (drawAs name) g arrows).Idle g := by
  obtain ⟨steps, first, last, foundFirst, foundLast, has⟩ := composed
  obtain ⟨reports, each, good⟩ := composeEach_of_composed legal steps
  have links : (Report.merge reports).ok = true := Report.merge_ok.mpr good
  cases arrows with
  | nil => cases foundFirst
  | cons outer others =>
    obtain ⟨whole, last', composite, target, foundLast', source⟩ :=
      composeAll_row first foundFirst rfl fun pair member => (steps pair member).meeting
    obtain rfl : last = last' := Option.some.inj (foundLast.symm.trans foundLast')
    have row : (outer :: others).filterMap g.arrow? = first :: others.filterMap g.arrow? :=
      List.filterMap_cons_some foundFirst
    rw [← row] at composite
    rw [← source, ← target] at has
    obtain ⟨c, present⟩ := legal.attempt_of_has has
    refine ⟨Report.merge [Report.merge reports, (Notice.present c).report], ?_, ?_⟩
    · simp [composeRow, each, links, composite, drawAs, present]
    · simp [Report.merge_ok, links, Notice.report, Notice.isSuccess]

theorem drawEach_of_edges {pairs : List (String × String)} (legal : g.WellFormed)
    (edges : ∀ pair ∈ pairs, g.Edge pair.1 pair.2) :
    ∃ notices, g.drawEach pairs = (g, notices) ∧ ∀ n ∈ notices, n.isSuccess = true := by
  induction pairs with
  | nil => exact ⟨[], rfl, nofun⟩
  | cons pair pairs ih =>
    have has : g.Has ⟨pair.1, pair.2, none⟩ := has_iff_edge.mpr (edges pair (List.mem_cons_self ..))
    obtain ⟨c, present⟩ := legal.attempt_of_has has
    obtain ⟨notices, others, good⟩ :=
      ih fun other member => edges other (List.mem_cons_of_mem _ member)
    refine ⟨.present c :: notices, ?_, List.forall_mem_cons.mpr ⟨rfl, good⟩⟩
    have first : g.draw pair.1 pair.2 = (g, .present c) := present
    simp [drawEach, first, others]

theorem drawRow_of_linked {objects : List String} (legal : g.WellFormed)
    (linked : g.Linked objects) :
    ∃ report, g.drawRow objects = (g, report) ∧ report.ok = true := by
  obtain ⟨notices, each, good⟩ := drawEach_of_edges legal linked
  refine ⟨Report.merge (notices.map Notice.report), by simp [drawRow, each], ?_⟩
  simpa [Report.merge_ok, Notice.report] using good

theorem idle_drawNamedRow {name : String} {objects : List String} (legal : g.WellFormed)
    (linked : g.Linked objects) (spanned : g.Spanned name objects) :
    (g.drawNamedRow name objects).Idle g := by
  obtain ⟨links, row, good⟩ := drawRow_of_linked legal linked
  obtain ⟨first, last, starts, ends, has⟩ := spanned
  obtain ⟨c, present⟩ := legal.attempt_of_has has
  have present : g.drawNamed name first last = (g, .present c) := present
  refine ⟨Report.merge [links, (Notice.present c).report], ?_, ?_⟩
  · simp [drawNamedRow, row, good, starts, ends, present]
  · simp [Report.merge_ok, good, Notice.report, Notice.isSuccess]

end Graph

open ArrowGraph.Graph

theorem idle_perform {g : Graph} {s : Statement} (legal : g.WellFormed) (holds : s.Holds g) :
    (s.perform g).Idle g := by
  cases s with
  | skip => exact ⟨_, rfl, rfl⟩
  | unspecified => cases holds
  | describe => exact ⟨_, rfl, isSuccess_describe_iff.mpr holds⟩
  | findRoute => exact ⟨_, rfl, isSuccess_findRoute_iff.mpr holds⟩
  | draw source target => exact idle_attempt legal holds
  | drawNamed name source target => exact idle_attempt legal holds
  | compose => exact idle_composeInto legal holds
  | composeNamed => exact idle_composeInto legal holds
  | drawChain objects =>
    obtain ⟨report, row, good⟩ := drawRow_of_linked legal holds
    exact ⟨report, by simp [Statement.perform, row], good⟩
  | drawNamedChain => exact idle_drawNamedRow legal holds.1 holds.2
  | composeChain => exact idle_composeRow legal holds
  | composeNamedChain => exact idle_composeRow legal holds

end ArrowGraph
