import ArrowGraph.Proofs.Session.Told

namespace ArrowGraph

namespace Graph

variable {g h : Graph}

/-- The report, if it has come to one, tells how the graph of the effect has come out of this one.
-/
def Accounts (g : Graph) (effect : Effect) : Prop :=
  ∀ report, effect.outcome = .ok report → g.Told report.changes effect.graph

theorem told_quiet {n : Notice} (legal : g.Legal) (labelled : ∀ word ∈ n.labels, IsLabel word)
    (quiet : n.change? = none) : g.Told n.report.changes g := by
  rw [Notice.changes_report labelled, quiet]
  exact told_nothing legal

theorem told_missing {names : List String} (legal : g.Legal) (known : ∀ name ∈ names, IsLabel name) :
    g.Told (g.missing names).changes g := by
  refine .merge ?_
  induction names with
  | nil => exact told_nothing legal
  | cons name names ih =>
    obtain ⟨first, others⟩ := List.forall_mem_cons.mp known
    have rest := ih others
    by_cases has : g.hasName name = true
    · simpa [has] using rest
    · have here : g.Told (Notice.noArrow name).report.changes g :=
        told_quiet legal (by simpa [Notice.labels] using first) rfl
      simpa [has] using here.trans rest

theorem accounts_composeInto (name : Option String) {outer inner : String} (legal : g.Legal)
    (given : ∀ label, name = some label → IsLabel label) (known : IsLabel outer ∧ IsLabel inner) :
    g.Accounts (composeInto (drawAs name) g outer inner) := by
  have outcome := composeInto_outcome name g outer inner
  generalize composeInto (drawAs name) g outer inner = effect at outcome ⊢
  rintro report done
  cases outcome with
  | apart => cases done
  | missing =>
    obtain rfl := Except.ok.inj done
    exact told_missing legal (by simpa using known)
  | drawn foundOuter foundInner meet =>
    obtain rfl := Except.ok.inj done
    have outerArrow := legal.labelled _ (arrow?_some foundOuter).1
    have innerArrow := legal.labelled _ (arrow?_some foundInner).1
    exact told_attempt legal ⟨innerArrow.source, outerArrow.target, given⟩

theorem told_composeEach {pairs : List (String × String)} {reports : List Report} (legal : g.Legal)
    (known : ∀ pair ∈ pairs, IsLabel pair.1 ∧ IsLabel pair.2)
    (done : g.composeEach pairs = (h, .ok reports)) :
    g.Told (reports.flatMap Report.changes) h := by
  induction pairs generalizing g reports with
  | nil =>
    cases done
    exact told_nothing legal
  | cons pair pairs ih =>
    obtain ⟨outer, inner⟩ := pair
    obtain ⟨here, others⟩ := List.forall_mem_cons.mp known
    have first : g.Accounts (composeInto draw g outer inner) :=
      accounts_composeInto none legal (by simp) here
    rw [composeEach] at done
    generalize composeInto draw g outer inner = effect at first done
    obtain ⟨k, outcome⟩ := effect
    cases outcome with
    | error e => cases done
    | ok report =>
      have step : g.Told report.changes k := first report rfl
      cases rest : k.composeEach pairs with
      | mk l outcome =>
        simp only [rest] at done
        cases outcome with
        | error e => cases done
        | ok later =>
          cases done
          exact step.trans (ih step.now others rest)

theorem accounts_composeRow (name : Option String) {arrows : List String} (legal : g.Legal)
    (given : ∀ label, name = some label → IsLabel label) (known : ∀ arrow ∈ arrows, IsLabel arrow) :
    g.Accounts (composeRow (drawAs name) g arrows) := by
  unfold composeRow
  cases each : g.composeEach (neighbours arrows) with
  | mk between outcome =>
    cases outcome with
    | error e => rintro _ ⟨⟩
    | ok reports =>
      have links : g.Told (Report.merge reports).changes between :=
        .merge (told_composeEach legal (forall_neighbours known) each)
      dsimp only
      split
      · rintro _ ⟨⟩
        exact links
      · split
        · rintro _ ⟨⟩
        · rename_i whole composed
          have ends : ∀ a ∈ arrows.filterMap between.arrow?, IsLabel a.source ∧ IsLabel a.target := by
            intro a member
            obtain ⟨_, _, found⟩ := List.mem_filterMap.mp member
            have labelled := links.now.labelled a (arrow?_some found).1
            exact ⟨labelled.source, labelled.target⟩
          obtain ⟨starts, stops⟩ := ends_of_composeAll ends composed
          have labelled : Arrow.Labelled ⟨whole.source, whole.target, name⟩ := ⟨starts, stops, given⟩
          rintro _ ⟨⟩
          exact (links.trans (told_attempt links.now labelled)).merge_pair

theorem told_drawEach {pairs : List (String × String)} (legal : g.Legal)
    (known : ∀ pair ∈ pairs, IsLabel pair.1 ∧ IsLabel pair.2) :
    g.Told (((g.drawEach pairs).2.map Notice.report).flatMap Report.changes)
      (g.drawEach pairs).1 := by
  induction pairs generalizing g with
  | nil => exact told_nothing legal
  | cons pair pairs ih =>
    obtain ⟨source, target⟩ := pair
    obtain ⟨⟨starts, ends⟩, others⟩ := List.forall_mem_cons.mp known
    have first : g.Told (g.draw source target).2.report.changes (g.draw source target).1 :=
      told_attempt (a := ⟨source, target, none⟩) legal ⟨starts, ends, by simp⟩
    exact first.trans (ih first.now others)

theorem told_drawRow {objects : List String} (legal : g.Legal)
    (known : ∀ object ∈ objects, IsLabel object) :
    g.Told (g.drawRow objects).2.changes (g.drawRow objects).1 :=
  .merge (told_drawEach legal (forall_neighbours known))

theorem accounts_drawNamedRow {name : String} {objects : List String} (legal : g.Legal)
    (given : IsLabel name) (known : ∀ object ∈ objects, IsLabel object) :
    g.Accounts (g.drawNamedRow name objects) := by
  have links := told_drawRow legal known
  unfold drawNamedRow
  generalize g.drawRow objects = drawn at links ⊢
  obtain ⟨between, report⟩ := drawn
  dsimp only at links ⊢
  split
  · rintro _ ⟨⟩
    exact links
  · split
    · rename_i first last starts ends
      have labelled : Arrow.Labelled ⟨first, last, some name⟩ :=
        ⟨known _ (List.mem_of_head? starts), known _ (List.mem_of_getLast? ends),
          fun _ same => Option.some.inj same ▸ given⟩
      rintro _ ⟨⟩
      exact (links.trans (told_attempt links.now labelled)).merge_pair
    · rintro _ ⟨⟩

/-- A statement over labels accounts for what it does. -/
theorem accounts_perform {s : Statement} (legal : g.Legal) (known : ∀ word ∈ s.labels, IsLabel word) :
    g.Accounts (s.perform g) := by
  cases s with
  | skip =>
    rintro _ ⟨⟩
    exact told_nothing legal
  | unspecified => rintro _ ⟨⟩
  | describe name =>
    rintro _ ⟨⟩
    simp only [Statement.labels, List.forall_mem_singleton] at known
    refine told_quiet legal (labelled_describe legal known) ?_
    rw [describe]
    split
    · rfl
    · split <;> rfl
  | findRoute origin destination =>
    rintro _ ⟨⟩
    simp only [Statement.labels, List.forall_mem_cons] at known
    refine told_quiet legal (labelled_findRoute legal known.1 known.2.1) ?_
    rw [findRoute]
    split
    · rfl
    · split
      · rfl
      · split <;> rfl
  | draw source target =>
    rintro _ ⟨⟩
    simp only [Statement.labels, List.forall_mem_cons] at known
    exact told_attempt (a := ⟨source, target, none⟩) legal ⟨known.1, known.2.1, by simp⟩
  | drawNamed name source target =>
    rintro _ ⟨⟩
    simp only [Statement.labels, List.forall_mem_cons] at known
    refine told_attempt (a := ⟨source, target, some name⟩) legal ⟨known.2.1, known.2.2.1, ?_⟩
    exact fun _ same => Option.some.inj same ▸ known.1
  | compose outer inner =>
    simp only [Statement.labels, List.forall_mem_cons] at known
    exact accounts_composeInto none legal (by simp) ⟨known.1, known.2.1⟩
  | composeNamed name outer inner =>
    simp only [Statement.labels, List.forall_mem_cons] at known
    refine accounts_composeInto (some name) legal ?_ ⟨known.2.1, known.2.2.1⟩
    exact fun _ same => Option.some.inj same ▸ known.1
  | drawChain objects =>
    rintro _ ⟨⟩
    exact told_drawRow legal known
  | drawNamedChain name objects =>
    obtain ⟨given, inRow⟩ := List.forall_mem_cons.mp known
    exact accounts_drawNamedRow legal given inRow
  | composeChain arrows => exact accounts_composeRow none legal (by simp) known
  | composeNamedChain name arrows =>
    obtain ⟨given, inRow⟩ := List.forall_mem_cons.mp known
    refine accounts_composeRow (some name) legal ?_ inRow
    exact fun _ same => Option.some.inj same ▸ given

end Graph

namespace Command

open ArrowGraph.Graph (Told told_nothing accounts_perform)

mutual

theorem told_apply {g : Graph} (legal : g.Legal) : ∀ (c : Command) {report : Report},
    (∀ word ∈ c.labels, IsLabel word) → (c.apply g).outcome = .ok report →
      g.Told report.changes (c.apply g).graph
  | .single s, report, known, done => by
    rw [labels_single] at known
    exact accounts_perform legal known report done
  | .batch commands, report, known, done => by
    rw [apply, map_eq_ok_iff] at done
    obtain ⟨reports, each, rfl⟩ := done
    exact (told_applyEach legal commands known each).merge

theorem told_applyEach {g : Graph} (legal : g.Legal) : ∀ (cs : List Command) {reports : List Report},
    (∀ word ∈ (batch cs).labels, IsLabel word) → (applyEach g cs).outcome = .ok reports →
      g.Told (reports.flatMap Report.changes) (applyEach g cs).graph
  | [], reports, _, done => by
    obtain rfl := Except.ok.inj done
    exact told_nothing legal
  | c :: cs, reports, known, done => by
    rw [labels_batch_cons, List.forall_mem_append] at known
    obtain ⟨report, others, first, rest, rfl⟩ := applyEach_cons_ok done
    have step := told_apply legal c known.1 first
    rw [applyEach_ok first]
    exact step.trans (told_applyEach step.now cs known.2 rest)

end

end Command

namespace Graph

variable {g : Graph}

theorem told_evaluate {line : String} {report : Report} (legal : g.Legal)
    (done : (g.evaluate line).outcome = .ok report) :
    g.Told report.changes (g.evaluate line).graph := by
  cases read : (Command.ofLine line).command with
  | error failure =>
    simp only [evaluate, read] at done
    cases done
  | ok c =>
    have known : ∀ word ∈ c.labels, IsLabel word :=
      fun word member => Token.isLabel_of_mem_labelsOf (Command.labels_ofLine read member)
    obtain ⟨graph, outcome⟩ := evaluate_of_ofLine read g
    rw [outcome] at done
    rw [graph]
    cases reported : (c.apply g).outcome with
    | error e =>
      rw [reported] at done
      cases done
    | ok r =>
      rw [reported] at done
      obtain rfl := Except.ok.inj done
      exact Command.told_apply legal c known reported

/-- What a line changes in a graph that lines have drawn is what its message tells, whether it
succeeds or fails. No change is told twice; each of them was still to be made, and it has been. -/
theorem message_is_change_log {lines : List String} {line : String} {report : Report}
    (done : ((empty.evaluateEach lines).1.evaluate line).outcome = .ok report) :
    let before := (empty.evaluateEach lines).1
    let after := (before.evaluate line).graph
    before.replay report.message = after ∧ report.changes.Nodup ∧
      ∀ c ∈ report.changes, ¬ before.Has c.arrow ∧ after.Has c.arrow := by
  have told := told_evaluate (legal_empty.evaluateEach lines) done
  exact ⟨told.replayed, told.distinct, fun c member => ⟨told.fresh c member, told.made c member⟩⟩

/-- An arrow is named where it is, a name is looked for in vain twice, a route is told, and a row
adds to what is there. -/
theorem message_is_change_log_row :
    let lines := ["f: a -> b; b -> c", "f . f"]
    let line := "g: b -> c; h: g . f; g . k; g . k; a -- c; k: a -> b -> d"
    let report : Report := .failure ("\n".intercalate ["Named arrow g: b -> c",
      "Drew arrow h: a -> c", "No arrow named k", "a -> c", "Arrow f: a -> b already exists",
      "Drew arrow b -> d", "Drew arrow k: a -> d"])
    let before := (empty.evaluateEach lines).1
    let after := (before.evaluate line).graph
    (before.evaluate line).outcome = .ok report ∧
      report.changes = [.named "g" "b" "c", .drew ⟨"a", "c", some "h"⟩, .drew ⟨"b", "d", none⟩,
        .drew ⟨"a", "d", some "k"⟩] ∧
      before.replay report.message = after ∧ report.changes.Nodup ∧
      ∀ c ∈ report.changes, ¬ before.Has c.arrow ∧ after.Has c.arrow := by
  intro lines line report before after
  have done : (before.evaluate line).outcome = .ok report := by decide +kernel
  exact ⟨done, by decide +kernel, message_is_change_log done⟩

end Graph
end ArrowGraph
