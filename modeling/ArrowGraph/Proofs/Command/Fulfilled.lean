import ArrowGraph.Proofs.Command.Idle

namespace ArrowGraph

namespace Graph

variable {g h : Graph} {name : Option String}

theorem missing_ok_iff {names : List String} :
    (g.missing names).ok = true ↔ ∀ name ∈ names, name ∈ g.names := by
  rw [missing, Report.merge_ok, List.forall_mem_map]
  simp [hasName_eq_decide, Notice.report, Notice.isSuccess]

theorem missing_not_ok {outer inner : String}
    (absent : g.arrow? outer = none ∨ g.arrow? inner = none) :
    ¬ (g.missing [outer, inner]).ok = true := by
  intro good
  have known (name : String) (member : name ∈ [outer, inner]) : g.arrow? name ≠ none := by
    have isName := missing_ok_iff.mp good name member
    have found : g.hasName name = true := by simpa [hasName_eq_decide] using isName
    simpa [hasName, Option.isSome_iff_ne_none] using found
  rcases absent with absent | absent
  · exact known outer (by simp) absent
  · exact known inner (by simp) absent

theorem later_composeInto (proper : g.Proper) (shows : name ≠ some "") (outer inner : String) :
    g.Later (composeInto (drawAs name) g outer inner).graph := by
  have drawn : Strokes (fun _ a => a.name ≠ some "") g
      (composeInto (drawAs name) g outer inner).graph :=
    strokes_composeInto name g outer inner fun _ _ _ => shows
  exact later_of_strokes proper drawn fun _ _ allowed => allowed

theorem later_composeEach (proper : g.Proper) (pairs : List (String × String)) :
    g.Later (g.composeEach pairs).1 := by
  have drawn : Strokes (fun _ a => a.name ≠ some "") g (g.composeEach pairs).1 :=
    strokes_composeEach g pairs fun _ _ _ _ => nofun
  exact later_of_strokes proper drawn fun _ _ allowed => allowed

theorem composed_of_composeInto (proper : g.Proper) (shows : name ≠ some "") (outer inner : String)
    (success : Succeeds (composeInto (drawAs name) g outer inner).outcome) :
    (composeInto (drawAs name) g outer inner).graph.Composed name outer inner := by
  have later := later_composeInto proper shows outer inner
  have outcome := composeInto_outcome name g outer inner
  generalize composeInto (drawAs name) g outer inner = effect at outcome success later ⊢
  obtain ⟨report, done, good⟩ := success
  cases outcome with
  | missing absent =>
    obtain rfl := Except.ok.inj done
    exact absurd good (missing_not_ok absent)
  | apart => cases done
  | drawn foundOuter foundInner meet =>
    obtain rfl := Except.ok.inj done
    obtain ⟨c, thereOuter, outerStays⟩ := later.arrow? foundOuter
    obtain ⟨d, thereInner, innerStays⟩ := later.arrow? foundInner
    refine ⟨c, d, thereOuter, thereInner, ?_, ?_⟩
    · rw [innerStays.target, outerStays.source, meet]
    · rw [innerStays.source, outerStays.target]
      exact has_of_attempt good

theorem composed_of_composeEach {pairs : List (String × String)} {reports : List Report}
    (proper : g.Proper) (done : g.composeEach pairs = (h, .ok reports))
    (good : ∀ r ∈ reports, r.ok = true) : ∀ pair ∈ pairs, h.Composed none pair.1 pair.2 := by
  induction pairs generalizing g reports with
  | nil => exact nofun
  | cons pair pairs ih =>
    obtain ⟨outer, inner⟩ := pair
    have here : composeInto (drawAs none) g outer inner = composeInto draw g outer inner := rfl
    have first := later_composeInto proper unnamed_ne_empty outer inner
    have composed := composed_of_composeInto proper unnamed_ne_empty outer inner
    rw [here] at first composed
    have others := later_composeEach first.now pairs
    rw [composeEach] at done
    generalize composeInto draw g outer inner = effect at first composed others done
    obtain ⟨k, outcome⟩ := effect
    cases outcome with
    | error e => cases done
    | ok report =>
      cases rest : k.composeEach pairs with
      | mk l outcome =>
        simp only [rest] at done others
        cases outcome with
        | error e => cases done
        | ok later =>
          cases done
          obtain ⟨goodFirst, goodOthers⟩ := List.forall_mem_cons.mp good
          refine List.forall_mem_cons.mpr ⟨?_, ih first.now rest goodOthers⟩
          exact others.composed unnamed_ne_empty (composed ⟨report, rfl, goodFirst⟩)

theorem composeRow_success {arrows : List String}
    (success : Succeeds (composeRow (drawAs name) g arrows).outcome) :
    ∃ between reports whole, g.composeEach (neighbours arrows) = (between, .ok reports) ∧
      (∀ r ∈ reports, r.ok = true) ∧ composeAll (arrows.filterMap between.arrow?) = .ok whole ∧
      (between.attempt ⟨whole.source, whole.target, name⟩).2.isSuccess = true ∧
      (composeRow (drawAs name) g arrows).graph =
        (between.attempt ⟨whole.source, whole.target, name⟩).1 := by
  obtain ⟨report, done, good⟩ := success
  unfold composeRow at done ⊢
  cases each : g.composeEach (neighbours arrows) with
  | mk between outcome =>
    cases outcome with
    | error e => simp [each] at done
    | ok reports =>
      simp only [each] at done ⊢
      by_cases links : (Report.merge reports).ok = true
      · simp only [links, Bool.not_true, Bool.false_eq_true, if_false] at done ⊢
        cases composite : composeAll (arrows.filterMap between.arrow?) with
        | error e => simp [composite] at done
        | ok whole =>
          simp only [composite] at done ⊢
          obtain rfl := Except.ok.inj done
          have last := Report.merge_ok.mp good _ (List.mem_cons_of_mem _ (List.mem_singleton_self _))
          exact ⟨between, reports, whole, rfl, Report.merge_ok.mp links, composite, last, rfl⟩
      · simp only [links, Bool.not_false, if_true] at done
        obtain rfl := Except.ok.inj done
        exact absurd good links

theorem rowComposed_of_composeRow {arrows : List String} (proper : g.Proper)
    (shows : name ≠ some "") (success : Succeeds (composeRow (drawAs name) g arrows).outcome) :
    (composeRow (drawAs name) g arrows).graph.RowComposed name arrows := by
  obtain ⟨between, reports, whole, each, good, composite, drawn, graph⟩ := composeRow_success success
  have steps := composed_of_composeEach proper each good
  have now : between.Proper := by
    have later := (later_composeEach proper (neighbours arrows)).now
    rwa [each] at later
  have later : between.Later (between.attempt ⟨whole.source, whole.target, name⟩).1 :=
    later_attempt now shows
  cases arrows with
  | nil => cases composite
  | cons outer others =>
    have known : ∃ a, between.arrow? outer = some a := by
      cases others with
      | nil =>
        -- A row of one arrow has no steps; without the arrow it would have no composite.
        cases found : between.arrow? outer with
        | none => simp [found, composeAll] at composite
        | some a => exact ⟨a, rfl⟩
      | cons inner others =>
        obtain ⟨a, _, found, _⟩ := steps (outer, inner) (List.mem_cons_self ..)
        exact ⟨a, found⟩
    obtain ⟨first, found⟩ := known
    obtain ⟨whole', last, composite', target, foundLast, source⟩ :=
      composeAll_row first found rfl fun pair member => (steps pair member).meeting
    rw [List.filterMap_cons_some found, composite'] at composite
    obtain rfl := Except.ok.inj composite
    obtain ⟨c, thereFirst, firstStays⟩ := later.arrow? found
    obtain ⟨d, thereLast, lastStays⟩ := later.bind_arrow? foundLast
    rw [graph]
    have steps' : ∀ pair ∈ neighbours (outer :: others),
        (between.attempt _).1.Composed none pair.1 pair.2 :=
      fun pair member => later.composed unnamed_ne_empty (steps pair member)
    refine ⟨steps', c, d, thereFirst, thereLast, ?_⟩
    rw [lastStays.source, firstStays.target, ← source, ← target]
    exact has_of_attempt drawn

theorem edges_of_drawEach {pairs : List (String × String)}
    (good : ∀ n ∈ (g.drawEach pairs).2, n.isSuccess = true) :
    ∀ pair ∈ pairs, (g.drawEach pairs).1.Edge pair.1 pair.2 := by
  induction pairs generalizing g with
  | nil => exact nofun
  | cons pair pairs ih =>
    obtain ⟨goodFirst, goodOthers⟩ := List.forall_mem_cons.mp good
    have first : (g.draw pair.1 pair.2).1.Edge pair.1 pair.2 :=
      (has_of_attempt (a := ⟨pair.1, pair.2, none⟩) goodFirst).edge
    have others : Strokes (fun _ _ => True) (g.draw pair.1 pair.2).1 (g.drawEach (pair :: pairs)).1 :=
      strokes_drawEach _ pairs fun _ _ _ => trivial
    exact List.forall_mem_cons.mpr ⟨others.grows.edge first, ih goodOthers⟩

theorem linked_of_drawRow {objects : List String} (good : (g.drawRow objects).2.ok = true) :
    (g.drawRow objects).1.Linked objects := by
  refine edges_of_drawEach fun n member => ?_
  exact Report.merge_ok.mp good n.report (List.mem_map_of_mem member)

theorem spanned_of_drawNamedRow {name : String} {objects : List String}
    (success : Succeeds (g.drawNamedRow name objects).outcome) :
    (g.drawNamedRow name objects).graph.Linked objects ∧
      (g.drawNamedRow name objects).graph.Spanned name objects := by
  have linked : (g.drawRow objects).2.ok = true → (g.drawRow objects).1.Linked objects :=
    linked_of_drawRow
  obtain ⟨report, done, good⟩ := success
  unfold drawNamedRow at done ⊢
  generalize g.drawRow objects = drawn at linked done ⊢
  obtain ⟨between, links⟩ := drawn
  by_cases went : links.ok = true
  · simp only [went, Bool.not_true, Bool.false_eq_true, if_false] at done ⊢
    split at done
    · rename_i first last starts ends
      obtain rfl := Except.ok.inj done
      have success := Report.merge_ok.mp good _ (List.mem_cons_of_mem _ (List.mem_singleton_self _))
      have grown := grows_attempt between ⟨first, last, some name⟩
      refine ⟨fun pair member => grown.edge (linked went pair member), first, last, starts, ends, ?_⟩
      exact has_of_attempt (a := ⟨first, last, some name⟩) success
    · cases done
  · simp only [went, Bool.not_false, if_true] at done
    obtain rfl := Except.ok.inj done
    exact absurd good went

end Graph

open ArrowGraph.Graph

theorem holds_of_perform {g : Graph} {s : Statement} (proper : g.Proper)
    (shows : ∀ name ∈ s.givenNames, name ≠ "") (success : Succeeds (s.perform g).outcome) :
    s.Holds (s.perform g).graph := by
  have given {name : String} (gives : s.givenNames = [name]) : some name ≠ some "" :=
    Statement.ne_empty_of_givenNames shows gives
  have attempted {a : Arrow}
      (done : Succeeds (Except.ok (g.attempt a).2.report : Except ApplyError Report)) :
      (g.attempt a).1.Has a := by
    obtain ⟨_, ⟨⟩, good⟩ := done
    exact has_of_attempt good
  cases s with
  | skip => trivial
  | unspecified =>
    obtain ⟨_, done, _⟩ := success
    cases done
  | describe =>
    obtain ⟨_, ⟨⟩, good⟩ := success
    exact isSuccess_describe_iff.mp good
  | findRoute =>
    obtain ⟨_, ⟨⟩, good⟩ := success
    exact isSuccess_findRoute_iff.mp good
  | draw source target => exact attempted (a := ⟨source, target, none⟩) success
  | drawNamed name source target => exact attempted (a := ⟨source, target, some name⟩) success
  | compose => exact composed_of_composeInto proper unnamed_ne_empty _ _ success
  | composeNamed => exact composed_of_composeInto proper (given rfl) _ _ success
  | drawChain =>
    obtain ⟨_, ⟨⟩, good⟩ := success
    exact linked_of_drawRow good
  | drawNamedChain => exact spanned_of_drawNamedRow success
  | composeChain => exact rowComposed_of_composeRow proper unnamed_ne_empty success
  | composeNamedChain => exact rowComposed_of_composeRow proper (given rfl) success

end ArrowGraph
