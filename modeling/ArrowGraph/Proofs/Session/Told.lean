import ArrowGraph.Proofs.Graph.Growth
import ArrowGraph.Proofs.Graph.Shortest
import ArrowGraph.Proofs.Session.Change

/-! What notices tell about graphs that lines have drawn. All their words are labels, so the reports
can be read again, and an attempt changes the graph as its report tells. A change is told once
because it can be made once: before it the graph does not have the arrow, and from then on it has.
-/
namespace ArrowGraph

namespace Graph

variable {g h k : Graph} {a : Arrow}

theorem labelled_attempt (legal : g.Legal) (labelled : a.Labelled) :
    ∀ word ∈ (g.attempt a).2.labels, IsLabel word := by
  obtain ⟨source, target, name⟩ := a
  have known {b : Arrow} (found : g.edge? source target = some b) : b.Labelled :=
    legal.labelled b (edge?_some found).1
  cases name with
  | none =>
    simp only [Graph.attempt, draw]
    split
    · simp [Notice.labels]
    · split
      · rename_i b found
        exact Arrow.labelled_iff.mp (known found)
      · exact Arrow.labelled_iff.mp labelled
  | some name =>
    have given := labelled.name name rfl
    simp only [Graph.attempt, drawNamed]
    split
    · simp [Notice.labels]
    · split
      · simp [Notice.labels]
      · split
        · rename_i b found
          have known := known found
          split
          · exact Arrow.labelled_iff.mp known
          · split
            · rename_i old shown
              have old_label := known.name old (Option.filter_eq_some_iff.mp shown).1
              simp [Notice.labels, labelled.source, labelled.target, old_label]
            · split
              · simpa [Notice.labels] using given
              · refine Arrow.labelled_iff.mp ⟨known.source, known.target, ?_⟩
                exact fun _ same => Option.some.inj same ▸ given
        · split
          · simpa [Notice.labels] using given
          · exact Arrow.labelled_iff.mp labelled

theorem labelled_describe {name : String} (legal : g.Legal) (given : IsLabel name) :
    ∀ word ∈ (g.describe name).labels, IsLabel word := by
  rw [describe]
  split
  · rename_i a found
    exact Arrow.labelled_iff.mp (legal.labelled a (arrow?_some found).1)
  · split
    · refine List.forall_mem_cons.mpr ⟨given, ?_⟩
      intro word member
      obtain ⟨a, touched, label⟩ := List.mem_flatMap.mp member
      exact Arrow.labelled_iff.mp (legal.labelled a (List.mem_of_mem_filter touched)) word label
    · simpa [Notice.labels] using given

theorem labelled_route {origin destination : String} {objects : List String} (legal : g.Legal)
    (given : IsLabel origin) (found : g.route origin destination = some objects) :
    ∀ object ∈ objects, IsLabel object := by
  intro object member
  rcases (walk_of_route found).mem_ends object member with rfl | isEnd
  · exact given
  · exact legal.labels object (List.mem_append_right _ isEnd)

theorem labelled_findRoute {origin destination : String} (legal : g.Legal)
    (starts : IsLabel origin) (ends : IsLabel destination) :
    ∀ word ∈ (g.findRoute origin destination).labels, IsLabel word := by
  rw [findRoute]
  split
  · simpa [Notice.labels] using starts
  · split
    · simpa [Notice.labels] using ends
    · split
      · rename_i objects found
        exact labelled_route legal starts found
      · simp [Notice.labels, starts, ends]

/-- The changes are those that turn the first graph into the second, each of them made once. -/
structure Told (g : Graph) (changes : List Change) (h : Graph) : Prop where
  start : g.Legal
  now : h.Legal
  grown : g.Grows h
  replayed : changes.foldl Change.make g = h
  fresh : ∀ c ∈ changes, ¬ g.Has c.arrow
  made : ∀ c ∈ changes, h.Has c.arrow
  distinct : changes.Nodup

theorem Legal.shows (legal : g.Legal) (has : g.Has a) : a.name ≠ some "" := by
  intro named
  obtain ⟨b, member, _, _, same⟩ := has
  have same : b.name = some "" := by simpa [named] using same
  exact ((legal.labelled b member).name "" same).ne_empty rfl

theorem told_nothing (legal : g.Legal) : g.Told [] g :=
  ⟨legal, legal, .refl g, rfl, nofun, nofun, .nil⟩

theorem told_once {c : Change} (start : g.Legal) (now : h.Legal) (grown : g.Grows h)
    (result : Change.make g c = h) (fresh : ¬ g.Has c.arrow) (made : h.Has c.arrow) :
    g.Told [c] h :=
  ⟨start, now, grown, result, by simpa using fresh, by simpa using made, List.nodup_singleton c⟩

theorem Told.trans {cs ds : List Change} (first : g.Told cs k) (second : k.Told ds h) :
    g.Told (cs ++ ds) h := by
  have stays {c : Change} (inside : c ∈ cs) : h.Has c.arrow :=
    second.grown.has (first.now.shows (first.made c inside)) (first.made c inside)
  have absent {c : Change} (inside : c ∈ ds) : ¬ g.Has c.arrow := by
    intro before
    exact second.fresh c inside (first.grown.has (first.start.shows before) before)
  refine ⟨first.start, second.now, first.grown.trans second.grown, ?_, ?_, ?_, ?_⟩
  · rw [List.foldl_append, first.replayed, second.replayed]
  · intro c member
    rcases List.mem_append.mp member with inside | inside
    · exact first.fresh c inside
    · exact absent inside
  · intro c member
    rcases List.mem_append.mp member with inside | inside
    · exact stays inside
    · exact second.made c inside
  · rw [List.nodup_append]
    refine ⟨first.distinct, second.distinct, ?_⟩
    rintro c inside _ later rfl
    exact second.fresh c later (first.made c inside)

theorem Legal.attempt (legal : g.Legal) (labelled : a.Labelled) : (g.attempt a).1.Legal := by
  refine ⟨legal.toWellFormed.attempt a, ?_⟩
  intro word member
  rcases List.mem_append.mp member with isName | isEnd
  · rcases mem_names_attempt isName with old | new
    · exact legal.labels word (List.mem_append_left _ old)
    · exact labelled.name word new
  · rcases mem_ends_attempt isEnd with old | rfl | rfl
    · exact legal.labels word (List.mem_append_right _ old)
    · exact labelled.source
    · exact labelled.target

theorem change?_of_failure {n : Notice} (failure : n.isSuccess = false) : n.change? = none := by
  cases n <;> first | rfl | cases failure

theorem told_attempt (legal : g.Legal) (labelled : a.Labelled) :
    g.Told (g.attempt a).2.report.changes (g.attempt a).1 := by
  rw [Notice.changes_report (labelled_attempt legal labelled)]
  have now := legal.attempt labelled
  have grown := grows_attempt g a
  have has : (g.attempt a).2.isSuccess = true → (g.attempt a).1.Has a := has_of_attempt
  have outcome := g.attempt_outcome a
  generalize g.attempt a = result at now grown has outcome ⊢
  cases outcome with
  | refused failure =>
    rw [change?_of_failure failure]
    exact told_nothing legal
  | present => exact told_nothing legal
  | added free absent =>
    refine told_once (c := .drew a) legal now grown rfl ?_ (has rfl)
    exact fun before => edge?_eq_none_iff.mp absent before.edge
  | @named name b free asked found unnamed =>
    obtain ⟨source, target, label⟩ := a
    obtain ⟨_, rfl, rfl⟩ := edge?_some found
    obtain rfl : label = some name := asked
    refine told_once (c := .named name b.source b.target) legal now grown rfl ?_ (has rfl)
    rintro ⟨d, member, _, _, same⟩
    exact free.unused name rfl (mem_names.mpr ⟨d, member, by simpa [Change.arrow] using same⟩)

theorem Told.merge {reports : List Report} (told : g.Told (reports.flatMap Report.changes) h) :
    g.Told (Report.merge reports).changes h := by
  rw [Report.changes_merge told.distinct]
  exact told

theorem Told.merge_pair {first second : Report} (told : g.Told (first.changes ++ second.changes) h) :
    g.Told (Report.merge [first, second]).changes h :=
  .merge (by simpa using told)

end Graph
end ArrowGraph
