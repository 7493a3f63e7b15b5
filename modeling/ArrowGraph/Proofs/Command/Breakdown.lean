import ArrowGraph.Proofs.Command.Fulfilled

/-! Breakdowns, in any graph. Drawing without a name gives no name to any arrow, so that a row of
names stands for the same arrows from its first composite to its last. It breaks down at two of them
that do not meet, and if all neighbours meet, so does the row. A statement that says what it wants
breaks down in no other way. -/
namespace ArrowGraph

open Statement (performEach)

namespace Graph

variable {g h : Graph}

/-- Two names stand for arrows that do not meet. -/
structure Clash (g : Graph) (pair : String × String) (clash : Mismatch) : Prop where
  outer : g.arrow? pair.1 = some clash.outer
  inner : g.arrow? pair.2 = some clash.inner
  gap : clash.inner.target ≠ clash.outer.source

theorem arrow?_draw (g : Graph) (source target asked : String) :
    (g.draw source target).1.arrow? asked = g.arrow? asked := by
  unfold draw
  split
  · rfl
  · split
    · rfl
    · simp [arrow?, List.find?_append]

theorem arrow?_of_strokes (drawn : Strokes (fun _ a => a.name = none) g h) (asked : String) :
    h.arrow? asked = g.arrow? asked := by
  refine drawn.keep rfl ?_
  intro k a same unnamed
  rw [attempt, unnamed]
  exact (arrow?_draw k _ _ asked).trans same

theorem arrow?_composeInto (g : Graph) (outer inner asked : String) :
    (composeInto draw g outer inner).graph.arrow? asked = g.arrow? asked :=
  arrow?_of_strokes (strokes_composeInto none g outer inner fun _ _ _ => rfl) asked

theorem arrow?_composeEach (g : Graph) (pairs : List (String × String)) (asked : String) :
    (g.composeEach pairs).1.arrow? asked = g.arrow? asked :=
  arrow?_of_strokes (strokes_composeEach g pairs fun _ _ _ _ => rfl) asked

theorem Clash.congr {pair : String × String} {clash : Mismatch} (clashes : h.Clash pair clash)
    (same : ∀ asked, h.arrow? asked = g.arrow? asked) : g.Clash pair clash :=
  ⟨same _ ▸ clashes.outer, same _ ▸ clashes.inner, clashes.gap⟩

theorem Meeting.congr {outer inner : String} (meeting : h.Meeting outer inner)
    (same : ∀ asked, h.arrow? asked = g.arrow? asked) : g.Meeting outer inner := by
  obtain ⟨a, b, foundOuter, foundInner, meet⟩ := meeting
  exact ⟨a, b, same outer ▸ foundOuter, same inner ▸ foundInner, meet⟩

theorem clash_of_composeInto (name : Option String) {outer inner : String} {e : ApplyError}
    (broken : (composeInto (drawAs name) g outer inner).outcome = .error e) :
    ∃ clash, e = .mismatch clash ∧ g.Clash (outer, inner) clash := by
  have outcome := composeInto_outcome name g outer inner
  generalize composeInto (drawAs name) g outer inner = effect at outcome broken
  cases outcome with
  | missing => cases broken
  | drawn => cases broken
  | @apart a b foundOuter foundInner gap =>
    cases broken
    exact ⟨⟨a, b⟩, rfl, foundOuter, foundInner, gap⟩

theorem meeting_of_composeInto (name : Option String) {outer inner : String}
    (success : Succeeds (composeInto (drawAs name) g outer inner).outcome) :
    g.Meeting outer inner := by
  have outcome := composeInto_outcome name g outer inner
  generalize composeInto (drawAs name) g outer inner = effect at outcome success
  obtain ⟨report, done, good⟩ := success
  cases outcome with
  | apart => cases done
  | @drawn a b foundOuter foundInner meet => exact ⟨a, b, foundOuter, foundInner, meet⟩
  | missing absent =>
    obtain rfl := Except.ok.inj done
    exact absurd good (missing_not_ok absent)

theorem composeEach_error {pair : String × String} {e : ApplyError}
    (broken : (composeInto draw g pair.1 pair.2).outcome = .error e)
    (pairs : List (String × String)) :
    g.composeEach (pair :: pairs) = ((composeInto draw g pair.1 pair.2).graph, .error e) := by
  simp [composeEach, broken]

theorem composeEach_ok {pair : String × String} {report : Report}
    (done : (composeInto draw g pair.1 pair.2).outcome = .ok report)
    (pairs : List (String × String)) :
    g.composeEach (pair :: pairs) =
      (((composeInto draw g pair.1 pair.2).graph.composeEach pairs).1,
        (report :: ·) <$> ((composeInto draw g pair.1 pair.2).graph.composeEach pairs).2) := by
  simp [composeEach, done]

theorem clash_of_composeEach {pairs : List (String × String)} {e : ApplyError}
    (broken : (g.composeEach pairs).2 = .error e) :
    ∃ pair ∈ pairs, ∃ clash, e = .mismatch clash ∧ g.Clash pair clash := by
  induction pairs generalizing g with
  | nil => cases broken
  | cons pair pairs ih =>
    cases first : (composeInto draw g pair.1 pair.2).outcome with
    | error e' =>
      rw [composeEach_error first] at broken
      cases broken
      obtain ⟨clash, rfl, clashes⟩ := clash_of_composeInto none first
      exact ⟨pair, List.mem_cons_self .., clash, rfl, clashes⟩
    | ok report =>
      rw [composeEach_ok first, map_eq_error_iff] at broken
      obtain ⟨later, member, clash, rfl, clashes⟩ := ih broken
      exact ⟨later, List.mem_cons_of_mem _ member, clash, rfl,
        clashes.congr (arrow?_composeInto g _ _)⟩

theorem meeting_of_composeEach {pairs : List (String × String)} {reports : List Report}
    (done : (g.composeEach pairs).2 = .ok reports) (good : ∀ r ∈ reports, r.ok = true) :
    ∀ pair ∈ pairs, g.Meeting pair.1 pair.2 := by
  induction pairs generalizing g reports with
  | nil => exact nofun
  | cons pair pairs ih =>
    cases first : (composeInto draw g pair.1 pair.2).outcome with
    | error e =>
      rw [composeEach_error first] at done
      cases done
    | ok report =>
      rw [composeEach_ok first, map_eq_ok_iff] at done
      obtain ⟨later, others, rfl⟩ := done
      obtain ⟨here, there⟩ := List.forall_mem_cons.mp good
      have meeting := meeting_of_composeInto none ⟨report, first, here⟩
      refine List.forall_mem_cons.mpr ⟨meeting, fun other member => ?_⟩
      exact (ih others there other member).congr (arrow?_composeInto g _ _)

theorem clash_of_composeRow (name : Option String) {names : List String} {e : ApplyError}
    (several : 2 ≤ names.length)
    (broken : (composeRow (drawAs name) g names).outcome = .error e) :
    ∃ pair ∈ neighbours names, ∃ clash, e = .mismatch clash ∧ g.Clash pair clash := by
  have kept := arrow?_composeEach g (neighbours names)
  unfold composeRow at broken
  cases each : g.composeEach (neighbours names) with
  | mk between outcome =>
    cases outcome with
    | error e' =>
      simp only [each] at broken
      obtain rfl := Except.error.inj broken
      exact clash_of_composeEach (by rw [each])
    | ok reports =>
      simp only [each] at broken kept
      split at broken
      · cases broken
      · rename_i links
        have good : (Report.merge reports).ok = true := by simpa using links
        have steps := meeting_of_composeEach (by rw [each]) (Report.merge_ok.mp good)
        match names, several with
        | outer :: inner :: others, _ =>
          obtain ⟨a, b, found, _⟩ := steps (outer, inner) (List.mem_cons_self ..)
          obtain ⟨whole, _, composite, _⟩ := composeAll_row a found rfl steps
          rw [← List.filterMap_cons_some found] at composite
          rw [funext kept, composite] at broken
          cases broken

theorem drawNamedRow_reports {objects : List String} (nonempty : objects ≠ []) (name : String) :
    ∃ report, (g.drawNamedRow name objects).outcome = .ok report := by
  unfold drawNamedRow
  dsimp only
  split
  · exact ⟨_, rfl⟩
  · rw [List.head?_eq_some_head nonempty, List.getLast?_eq_some_getLast nonempty]
    exact ⟨_, rfl⟩

end Graph

namespace Statement

def composedPairs : Statement → List (String × String)
  | compose outer inner | composeNamed _ outer inner => [(outer, inner)]
  | composeChain arrows | composeNamedChain _ arrows => neighbours arrows
  | _ => []

/-- The statement wants something, and has the names and objects that it takes. -/
def Definite : Statement → Prop
  | unspecified => False
  | drawNamedChain _ objects => objects ≠ []
  | composeChain arrows | composeNamedChain _ arrows => 2 ≤ arrows.length
  | _ => True

theorem clash_of_perform {s : Statement} {g : Graph} {e : ApplyError} (definite : s.Definite)
    (broken : (s.perform g).outcome = .error e) :
    ∃ pair ∈ s.composedPairs, ∃ clash, e = .mismatch clash ∧ g.Clash pair clash := by
  cases s with
  | skip | describe | findRoute | draw | drawNamed | drawChain => cases broken
  | unspecified => cases definite
  | compose outer inner =>
    exact ⟨_, List.mem_singleton_self _, Graph.clash_of_composeInto none broken⟩
  | composeNamed name outer inner =>
    exact ⟨_, List.mem_singleton_self _, Graph.clash_of_composeInto (some name) broken⟩
  | composeChain => exact Graph.clash_of_composeRow none definite broken
  | composeNamedChain name => exact Graph.clash_of_composeRow (some name) definite broken
  | drawNamedChain name objects =>
    obtain ⟨report, done⟩ := Graph.drawNamedRow_reports (g := g) definite name
    cases done.symm.trans broken

/-- Statements break down at one of them. Those before it are carried out, and no later ones. -/
theorem performEach_broken {g : Graph} {ss : List Statement} {e : ApplyError}
    (broken : (performEach g ss).2 = .error e) :
    ∃ before s after good, ss = before ++ s :: after ∧ (performEach g before).2 = .ok good ∧
      (s.perform (performEach g before).1).outcome = .error e ∧
      (performEach g ss).1 = (s.perform (performEach g before).1).graph := by
  induction ss generalizing g with
  | nil => cases broken
  | cons s ss ih =>
    cases first : (s.perform g).outcome with
    | error e' =>
      rw [performEach_error first] at broken ⊢
      cases broken
      exact ⟨[], s, ss, true, rfl, rfl, first, rfl⟩
    | ok report =>
      rw [performEach_ok first, map_eq_error_iff] at broken
      obtain ⟨before, t, after, good, rfl, reached, here, left⟩ := ih broken
      refine ⟨s :: before, t, after, report.ok && good, rfl, ?_, ?_, ?_⟩
      · rw [performEach_ok first, reached]
        rfl
      · rw [performEach_ok first]
        exact here
      · rw [performEach_ok first, performEach_ok first]
        exact left

end Statement
end ArrowGraph
