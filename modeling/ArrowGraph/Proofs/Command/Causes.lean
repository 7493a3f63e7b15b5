import ArrowGraph.Failure
import ArrowGraph.Proofs.Command.Breakdown

namespace ArrowGraph

namespace Graph

variable {g : Graph} {name : Option String} {pair : String × String} {clash : Mismatch}

def Clashing (g : Graph) (pair : String × String) : Prop :=
  ∃ clash, g.Clash pair clash

theorem clashing_iff : g.Clashing pair ↔
    ∃ outer ∈ g.arrow? pair.1, ∃ inner ∈ g.arrow? pair.2, inner.target ≠ outer.source := by
  constructor
  · rintro ⟨clash, clashes⟩
    exact ⟨clash.outer, clashes.outer, clash.inner, clashes.inner, clashes.gap⟩
  · rintro ⟨outer, foundOuter, inner, foundInner, gap⟩
    exact ⟨⟨outer, inner⟩, foundOuter, foundInner, gap⟩

instance (g : Graph) (pair : String × String) : Decidable (g.Clashing pair) :=
  decidable_of_iff _ clashing_iff.symm

/-- The arrows of the first pair that does not meet. -/
def FirstClash (g : Graph) (pairs : List (String × String)) (clash : Mismatch) : Prop :=
  ∃ before pair after, pairs = before ++ pair :: after ∧ (∀ other ∈ before, ¬ g.Clashing other) ∧
    g.Clash pair clash

theorem exists_firstClash {pairs : List (String × String)}
    (clashing : ∃ pair ∈ pairs, g.Clashing pair) : ∃ clash, g.FirstClash pairs clash := by
  induction pairs with
  | nil =>
    obtain ⟨_, impossible, _⟩ := clashing
    cases impossible
  | cons pair pairs ih =>
    by_cases here : g.Clashing pair
    · obtain ⟨clash, here⟩ := here
      exact ⟨clash, [], pair, pairs, rfl, nofun, here⟩
    · obtain ⟨other, member, clashing⟩ := clashing
      have later : other ∈ pairs := by
        rcases List.mem_cons.mp member with rfl | later
        · exact absurd clashing here
        · exact later
      obtain ⟨clash, before, first, after, rfl, meet, clashes⟩ := ih ⟨other, later, clashing⟩
      exact ⟨clash, pair :: before, first, after, rfl,
        List.forall_mem_cons.mpr ⟨here, meet⟩, clashes⟩

theorem firstClash_singleton : g.FirstClash [pair] clash ↔ g.Clash pair clash := by
  constructor
  · rintro ⟨before, other, after, split, _, clashes⟩
    obtain ⟨rfl, ⟨rfl, rfl⟩⟩ | ⟨_, _, impossible⟩ := List.cons_eq_append_iff.mp split
    · exact clashes
    · simp at impossible
  · exact fun clashes => ⟨[], pair, [], rfl, nofun, clashes⟩

theorem not_firstClash_nil : ¬ g.FirstClash [] clash := by
  rintro ⟨before, pair, after, split, _⟩
  simp at split

theorem FirstClash.clashing {pairs : List (String × String)} (first : g.FirstClash pairs clash) :
    ∃ pair ∈ pairs, g.Clashing pair := by
  obtain ⟨before, pair, after, rfl, _, clashes⟩ := first
  exact ⟨pair, by simp, clash, clashes⟩

theorem Clash.composeInto (clashes : g.Clash pair clash) (name : Option String) :
    composeInto (drawAs name) g pair.1 pair.2 = ⟨g, .error (.mismatch clash)⟩ := by
  simp [Graph.composeInto, clashes.outer, clashes.inner, Arrow.compose, clashes.gap]

theorem composeEach_append {before : List (String × String)} {reports : List Report}
    (done : (g.composeEach before).2 = .ok reports) (after : List (String × String)) :
    g.composeEach (before ++ after) =
      (((g.composeEach before).1.composeEach after).1,
        (reports ++ ·) <$> ((g.composeEach before).1.composeEach after).2) := by
  induction before generalizing g reports with
  | nil =>
    cases done
    cases rest : g.composeEach after with
    | mk between outcome => cases outcome <;> simp [composeEach, rest, Functor.map, Except.map]
  | cons pair before ih =>
    cases first : (Graph.composeInto draw g pair.1 pair.2).outcome with
    | error e =>
      rw [composeEach_error first] at done
      cases done
    | ok report =>
      rw [composeEach_ok first, map_eq_ok_iff] at done
      obtain ⟨others, rest, rfl⟩ := done
      rw [List.cons_append, composeEach_ok first, composeEach_ok first, ih rest, Functor.map_map]
      rfl

theorem composeEach_reports {pairs : List (String × String)}
    (meet : ∀ pair ∈ pairs, ¬ g.Clashing pair) :
    ∃ reports, (g.composeEach pairs).2 = .ok reports := by
  cases done : (g.composeEach pairs).2 with
  | ok reports => exact ⟨reports, rfl⟩
  | error e =>
    obtain ⟨pair, member, clash, _, clashes⟩ := clash_of_composeEach done
    exact absurd ⟨clash, clashes⟩ (meet pair member)

theorem Clash.composeEach (clashes : g.Clash pair clash) {before : List (String × String)}
    (meet : ∀ other ∈ before, ¬ g.Clashing other) (after : List (String × String)) :
    g.composeEach (before ++ pair :: after) =
      ((g.composeEach before).1, .error (.mismatch clash)) := by
  obtain ⟨reports, done⟩ := composeEach_reports meet
  have kept : (g.composeEach before).1.Clash pair clash :=
    clashes.congr fun asked => (arrow?_composeEach g before asked).symm
  have here : (Graph.composeInto draw (g.composeEach before).1 pair.1 pair.2) =
      ⟨(g.composeEach before).1, .error (.mismatch clash)⟩ := kept.composeInto none
  rw [composeEach_append done, composeEach_error (congrArg Effect.outcome here), here]
  rfl

theorem FirstClash.composeRow {names : List String} (first : g.FirstClash (neighbours names) clash)
    (drawing : Graph → String → String → Graph × Notice) :
    (composeRow drawing g names).outcome = .error (.mismatch clash) := by
  obtain ⟨before, pair, after, split, meet, clashes⟩ := first
  simp [Graph.composeRow, split, clashes.composeEach meet]

theorem arrow?_eq_none_iff {n : String} : g.arrow? n = none ↔ n ∉ g.names := by
  simp [arrow?, names]

theorem composeRow_singleton (drawing : Graph → String → String → Graph × Notice) {n : String}
    {e : ApplyError} :
    (composeRow drawing g [n]).outcome = .error e ↔ e = .noArrows ∧ n ∉ g.names := by
  rw [← arrow?_eq_none_iff]
  cases found : g.arrow? n <;>
    simp [composeRow, neighbours, composeEach, composeAll, Report.merge_nil, Report.success, found,
      Except.mapError, pure, Except.pure, eq_comm]

/-- A row breaks down at the first two neighbours that do not meet, or when it has no arrow. -/
theorem composeRow_error_iff (name : Option String) {names : List String} {e : ApplyError} :
    (composeRow (drawAs name) g names).outcome = .error e ↔
      (∃ clash, e = .mismatch clash ∧ g.FirstClash (neighbours names) clash) ∨
        e = .noArrows ∧ (names = [] ∨ ∃ n, names = [n] ∧ n ∉ g.names) := by
  constructor
  · intro broken
    match names with
    | [] =>
      cases broken
      exact .inr ⟨rfl, .inl rfl⟩
    | [n] =>
      obtain ⟨rfl, unknown⟩ := (composeRow_singleton _).mp broken
      exact .inr ⟨rfl, .inr ⟨n, rfl, unknown⟩⟩
    | first :: second :: names =>
      obtain ⟨pair, member, clash, _, clashes⟩ := clash_of_composeRow name (by simp) broken
      obtain ⟨clash, first⟩ := exists_firstClash ⟨pair, member, clash, clashes⟩
      cases broken.symm.trans (first.composeRow (drawAs name))
      exact .inl ⟨clash, rfl, first⟩
  · rintro (⟨clash, rfl, first⟩ | ⟨rfl, rfl | ⟨n, rfl, unknown⟩⟩)
    · exact first.composeRow (drawAs name)
    · rfl
    · exact (composeRow_singleton _).mpr ⟨rfl, unknown⟩

/-- After the composites of all neighbours, the arrows of the row meet. -/
theorem composeAll_meets {names : List String} {between : Graph} {reports : List Report}
    (steps : g.composeEach (neighbours names) = (between, .ok reports))
    (good : ∀ r ∈ reports, r.ok = true) (clash : Mismatch) :
    composeAll (names.filterMap between.arrow?) ≠ .error (.mismatch clash) := by
  have kept := arrow?_composeEach g (neighbours names)
  rw [steps] at kept
  have meet := meeting_of_composeEach (congrArg Prod.snd steps) good
  intro broken
  rw [funext kept] at broken
  cases names with
  | nil => cases broken
  | cons outer names =>
    cases names with
    | nil =>
      cases found : g.arrow? outer <;>
        simp [found, composeAll, Except.mapError, pure, Except.pure] at broken
    | cons inner others =>
      obtain ⟨a, _, found, _⟩ := meet (outer, inner) (List.mem_cons_self ..)
      obtain ⟨whole, _, composite, _⟩ := composeAll_row a found rfl meet
      rw [List.filterMap_cons_some found, composite] at broken
      cases broken

end Graph

namespace Statement

def ComposesRow (names : List String) (s : Statement) : Prop :=
  s = .composeChain names ∨ ∃ name, s = .composeNamedChain name names

/-- The causes of breakdowns, and the errors that come of them. -/
inductive BreaksDown (g : Graph) (s : Statement) : ApplyError → Prop where
  | unspecified (same : s = .unspecified) : BreaksDown g s .unspecified
  | mismatch {clash : Mismatch} (first : g.FirstClash s.composedPairs clash) :
      BreaksDown g s (.mismatch clash)
  | noObjects {name : String} (same : s = .drawNamedChain name []) : BreaksDown g s .noObjects
  | noArrows {names : List String} (row : s.ComposesRow names)
      (unknown : names = [] ∨ ∃ n, names = [n] ∧ n ∉ g.names) : BreaksDown g s .noArrows

variable {g : Graph} {s : Statement} {e : ApplyError}

theorem perform_compose_iff (name : Option String) {outer inner : String} :
    (Graph.composeInto (Graph.drawAs name) g outer inner).outcome = .error e ↔
      ∃ clash, e = .mismatch clash ∧ g.FirstClash [(outer, inner)] clash := by
  simp only [Graph.firstClash_singleton]
  constructor
  · exact Graph.clash_of_composeInto name
  · rintro ⟨clash, rfl, clashes⟩
    rw [clashes.composeInto name]

/-- Statements break down from these causes and no others. -/
theorem perform_error_iff : (s.perform g).outcome = .error e ↔ s.BreaksDown g e := by
  constructor
  · intro broken
    cases s with
    | skip | describe | findRoute | draw | drawNamed | drawChain => cases broken
    | unspecified =>
      cases broken
      exact .unspecified rfl
    | compose =>
      obtain ⟨clash, rfl, first⟩ := (perform_compose_iff none).mp broken
      exact .mismatch first
    | composeNamed name =>
      obtain ⟨clash, rfl, first⟩ := (perform_compose_iff (some name)).mp broken
      exact .mismatch first
    | drawNamedChain name objects =>
      cases objects with
      | nil =>
        cases broken
        exact .noObjects rfl
      | cons first others =>
        obtain ⟨report, done⟩ :=
          Graph.drawNamedRow_reports (g := g) (List.cons_ne_nil first others) name
        cases done.symm.trans broken
    | composeChain names =>
      rcases (Graph.composeRow_error_iff none).mp broken with
        ⟨clash, rfl, first⟩ | ⟨rfl, unknown⟩
      · exact .mismatch first
      · exact .noArrows (.inl rfl) unknown
    | composeNamedChain name names =>
      rcases (Graph.composeRow_error_iff (some name)).mp broken with
        ⟨clash, rfl, first⟩ | ⟨rfl, unknown⟩
      · exact .mismatch first
      · exact .noArrows (.inr ⟨name, rfl⟩) unknown
  · intro cause
    cases cause with
    | unspecified same | noObjects same =>
      subst same
      rfl
    | noArrows row unknown =>
      rcases row with rfl | ⟨name, rfl⟩
      · exact (Graph.composeRow_error_iff none).mpr (.inr ⟨rfl, unknown⟩)
      · exact (Graph.composeRow_error_iff (some name)).mpr (.inr ⟨rfl, unknown⟩)
    | mismatch first =>
      cases s with
      | compose => exact (perform_compose_iff none).mpr ⟨_, rfl, first⟩
      | composeNamed name => exact (perform_compose_iff (some name)).mpr ⟨_, rfl, first⟩
      | composeChain | composeNamedChain => exact first.composeRow _
      | _ => exact absurd first Graph.not_firstClash_nil

end Statement

def Run.BreaksAs (run : Run) (kind : FailureKind) : Prop :=
  ∃ error, run.outcome = .error error ∧ error.kind = kind

namespace Graph

def left (g : Graph) (commands : List Command) : Graph :=
  commands.foldl (fun h c => (c.apply h).graph) g

/-- Each command comes to a report in the graph that those before it leave. -/
def AllReport (g : Graph) : List Command → Prop
  | [] => True
  | c :: cs => (∃ report, (c.apply g).outcome = .ok report) ∧ AllReport (c.apply g).graph cs

end Graph

namespace Command

theorem applyEach_error_iff {cs : List Command} {g : Graph} {e : ApplyError} :
    (applyEach g cs).outcome = .error e ↔
      ∃ before c after, cs = before ++ c :: after ∧ g.AllReport before ∧
        (c.apply (g.left before)).outcome = .error e := by
  induction cs generalizing g with
  | nil => simp [applyEach]
  | cons c cs ih =>
    cases first : (c.apply g).outcome with
    | error e' =>
      rw [applyEach_error first]
      constructor
      · intro broken
        cases broken
        exact ⟨[], c, cs, rfl, trivial, first⟩
      · rintro ⟨before, d, after, split, reports, broken⟩
        rcases List.cons_eq_append_iff.mp split with ⟨rfl, whole⟩ | ⟨before, rfl, rfl⟩
        · obtain ⟨rfl, rfl⟩ := List.cons.inj whole
          cases first.symm.trans broken
          rfl
        · obtain ⟨report, done⟩ := reports.1
          cases first.symm.trans done
    | ok report =>
      rw [applyEach_ok first, map_eq_error_iff, ih]
      constructor
      · rintro ⟨before, d, after, rfl, reports, broken⟩
        exact ⟨c :: before, d, after, rfl, ⟨⟨report, first⟩, reports⟩, broken⟩
      · rintro ⟨before, d, after, split, reports, broken⟩
        rcases List.cons_eq_append_iff.mp split with ⟨rfl, whole⟩ | ⟨before, rfl, rfl⟩
        · obtain ⟨rfl, rfl⟩ := List.cons.inj whole
          cases first.symm.trans broken
        · exact ⟨before, d, after, rfl, reports.2, broken⟩

theorem apply_batch_error_iff {cs : List Command} {g : Graph} {e : ApplyError} :
    ((batch cs).apply g).outcome = .error e ↔
      ∃ before c after, cs = before ++ c :: after ∧ g.AllReport before ∧
        (c.apply (g.left before)).outcome = .error e := by
  rw [← applyEach_error_iff, apply, map_eq_error_iff]

variable {s : Statement} {g : Graph}

theorem breaksAs_iff {kind : FailureKind} :
    ((single s).apply g).BreaksAs kind ↔ ∃ error, s.BreaksDown g error ∧ error.kind = kind := by
  simp only [Run.BreaksAs, ← Statement.perform_error_iff]
  rfl

theorem breaksAs_control_iff :
    ((single s).apply g).BreaksAs .control ↔ s = .unspecified := by
  rw [breaksAs_iff]
  constructor
  · rintro ⟨_, cause, kind⟩
    cases cause with
    | unspecified same => exact same
    | _ => simp [ApplyError.kind] at kind
  · exact fun same => ⟨_, .unspecified same, rfl⟩

theorem breaksAs_composition_iff :
    ((single s).apply g).BreaksAs .composition ↔ ∃ pair ∈ s.composedPairs, g.Clashing pair := by
  rw [breaksAs_iff]
  constructor
  · rintro ⟨_, cause, kind⟩
    cases cause with
    | mismatch first => exact first.clashing
    | _ => simp [ApplyError.kind] at kind
  · intro clashing
    obtain ⟨clash, first⟩ := Graph.exists_firstClash clashing
    exact ⟨_, .mismatch first, rfl⟩

theorem breaksAs_index_iff :
    ((single s).apply g).BreaksAs (.foreign "IndexError") ↔
      ∃ name, s = .drawNamedChain name [] := by
  rw [breaksAs_iff]
  constructor
  · rintro ⟨_, cause, kind⟩
    cases cause with
    | noObjects same => exact ⟨_, same⟩
    | _ => simp [ApplyError.kind] at kind
  · rintro ⟨name, same⟩
    exact ⟨_, .noObjects same, rfl⟩

theorem breaksAs_type_iff :
    ((single s).apply g).BreaksAs (.foreign "TypeError") ↔
      ∃ names, s.ComposesRow names ∧ (names = [] ∨ ∃ n, names = [n] ∧ n ∉ g.names) := by
  rw [breaksAs_iff]
  constructor
  · rintro ⟨_, cause, kind⟩
    cases cause with
    | noArrows row unknown => exact ⟨_, row, unknown⟩
    | _ => simp [ApplyError.kind] at kind
  · rintro ⟨names, row, unknown⟩
    exact ⟨_, .noArrows row unknown, rfl⟩

theorem reports_or_breaksAs (c : Command) (g : Graph) :
    (∃ report, (c.apply g).outcome = .ok report) ∨
      ∃ kind ∈ [.control, .composition, .foreign "IndexError", .foreign "TypeError"],
        (c.apply g).BreaksAs kind := by
  cases done : (c.apply g).outcome with
  | ok report => exact .inl ⟨report, rfl⟩
  | error e =>
    refine .inr ⟨e.kind, ?_, e, done, rfl⟩
    cases e <;> simp [ApplyError.kind]

/-- How a statement breaks down can be told from the graph that it starts from. A batch breaks down
as the first of its commands that breaks down in the graph left by those before it. In all other
cases there is a report; after the steps of a row its composite is no cause of a mismatch. -/
theorem breaks_down_iff :
    (∀ (s : Statement) (g : Graph),
      let run := (single s).apply g
      (run.BreaksAs .control ↔ s = .unspecified) ∧
      (run.BreaksAs .composition ↔ ∃ pair ∈ s.composedPairs, g.Clashing pair) ∧
      (run.BreaksAs (.foreign "IndexError") ↔ ∃ name, s = .drawNamedChain name []) ∧
      (run.BreaksAs (.foreign "TypeError") ↔
        ∃ names, s.ComposesRow names ∧ (names = [] ∨ ∃ n, names = [n] ∧ n ∉ g.names)) ∧
      ((∃ report, run.outcome = .ok report) ∨
        ∃ kind ∈ [.control, .composition, .foreign "IndexError", .foreign "TypeError"],
          run.BreaksAs kind)) ∧
    (∀ (cs : List Command) (g : Graph) (e : ApplyError),
      ((batch cs).apply g).outcome = .error e ↔
        ∃ before c after, cs = before ++ c :: after ∧ g.AllReport before ∧
          (c.apply (g.left before)).outcome = .error e) ∧
    ∀ (g between : Graph) (names : List String) (reports : List Report),
      g.composeEach (neighbours names) = (between, .ok reports) → (∀ r ∈ reports, r.ok = true) →
        ∀ clash, Graph.composeAll (names.filterMap between.arrow?) ≠ .error (.mismatch clash) := by
  refine ⟨?_, fun _ _ _ => apply_batch_error_iff, fun _ _ _ _ => Graph.composeAll_meets⟩
  intro s g run
  exact ⟨breaksAs_control_iff, breaksAs_composition_iff, breaksAs_index_iff, breaksAs_type_iff,
    reports_or_breaksAs (.single s) g⟩

/-- A name occurs twice, and the first arrow that has it counts. The first command of the batch
fails, the second one breaks down within, and the third is not reached. -/
theorem breaks_down_iff_nested :
    let f : Arrow := ⟨"a", "b", some "f"⟩
    let h : Arrow := ⟨"b", "c", some "h"⟩
    let g : Graph := ⟨[f, h, ⟨"x", "y", some "f"⟩]⟩
    ((single (.composeChain ["k"])).apply g).BreaksAs (.foreign "TypeError") ∧
    ((batch [.single (.drawChain ["f", "a", "c"]), .batch [.single (.compose "f" "h")],
      .single .unspecified]).apply g).outcome = .error (.mismatch ⟨f, h⟩) ∧
    ∃ between reports, g.composeEach (neighbours ["h", "f"]) = (between, .ok reports) ∧
      (∀ r ∈ reports, r.ok = true) ∧
      ∀ clash, Graph.composeAll (["h", "f"].filterMap between.arrow?) ≠
        .error (.mismatch clash) := by
  intro f h g
  obtain ⟨single, batch, row⟩ := breaks_down_iff
  refine ⟨?_, ?_, ?_⟩
  · obtain ⟨_, _, _, noArrows, _⟩ := single (.composeChain ["k"]) g
    exact noArrows.mpr ⟨["k"], .inl rfl, .inr ⟨"k", rfl, by decide⟩⟩
  · exact (batch _ g _).mpr ⟨[.single (.drawChain ["f", "a", "c"])],
      .batch [.single (.compose "f" "h")], [.single .unspecified], rfl, ⟨⟨_, rfl⟩, trivial⟩, rfl⟩
  · have good : ∀ r ∈ [Report.success "Drew arrow a -> c"], r.ok = true := by simp [Report.success]
    exact ⟨_, _, rfl, good, row g _ ["h", "f"] _ rfl good⟩

end Command
end ArrowGraph
