import ArrowGraph.Proofs.Command.Labels
import ArrowGraph.Proofs.Graph.Restrict

/-! Unrelated arrows. A command whose words all belong to a set does not notice the arrows outside
this set, as long as no arrow has words on both sides: it comes to the same report or error, and it
does the same to the arrows inside. Those outside stay as they are. -/
namespace ArrowGraph

def Effect.result (effect : Effect) : Graph × Except ApplyError Report :=
  (effect.graph, effect.outcome)

def Run.result (run : Run) : Graph × Except ApplyError Report :=
  (run.graph, run.outcome)

def BatchRun.result (run : BatchRun) : Graph × Except ApplyError (List Report) :=
  (run.graph, run.outcome)

namespace Graph

variable {S : Set String} [DecidablePred (· ∈ S)] {g : Graph}

theorem Apart.stop {α β : Type} {h : Graph} {result : α}
    (apart : Apart S g (h, result) (h.restrict S, result)) (last : β) :
    Apart S g (h, last) (h.restrict S, last) :=
  apart.trans (apart_unchanged apart.splits last)

theorem Apart.report {α : Type} {whole alone : Graph × α} (apart : Apart S g whole alone)
    (text : α → Report) :
    Apart S g (Effect.mk whole.1 (.ok (text whole.2))).result
      (Effect.mk alone.1 (.ok (text alone.2))).result :=
  ⟨apart.splits, apart.inside, apart.outside, congrArg (Except.ok ∘ text) apart.same⟩

theorem missing_restrict {names : List String} (split : g.Splits S) (known : ∀ n ∈ names, n ∈ S) :
    (g.restrict S).missing names = g.missing names := by
  rw [missing, missing]
  congr 2
  refine List.filter_congr fun n member => ?_
  rw [hasName_restrict split (known n member)]

theorem apart_composeInto (name : Option String) {outer inner : String} (split : g.Splits S)
    (given : ∀ n, name = some n → n ∈ S) (first : outer ∈ S) (second : inner ∈ S) :
    Apart S g (composeInto (drawAs name) g outer inner).result
      (composeInto (drawAs name) (g.restrict S) outer inner).result := by
  have missing : (g.restrict S).missing [outer, inner] = g.missing [outer, inner] :=
    missing_restrict split (by simp [first, second])
  unfold composeInto
  rw [arrow?_restrict split first, arrow?_restrict split second, missing]
  cases foundOuter : g.arrow? outer with
  | none => exact apart_unchanged split _
  | some a =>
    cases foundInner : g.arrow? inner with
    | none => exact apart_unchanged split _
    | some b =>
      obtain ⟨memberA, namedA⟩ := arrow?_some foundOuter
      obtain ⟨memberB, namedB⟩ := arrow?_some foundInner
      have insideA := Arrow.inside_iff.mp (split.of_name memberA namedA first)
      have insideB := Arrow.inside_iff.mp (split.of_name memberB namedB second)
      by_cases meet : b.target = a.source
      · simp only [Arrow.compose, if_pos meet]
        have inside : Arrow.Inside S ⟨b.source, a.target, name⟩ :=
          Arrow.inside_iff.mpr ⟨insideB.1, insideA.2.1, given⟩
        exact (apart_attempt split inside).report Notice.report
      · simp only [Arrow.compose, if_neg meet]
        exact apart_unchanged split _

theorem apart_composeEach {pairs : List (String × String)} (split : g.Splits S)
    (known : ∀ pair ∈ pairs, pair.1 ∈ S ∧ pair.2 ∈ S) :
    Apart S g (g.composeEach pairs) ((g.restrict S).composeEach pairs) := by
  induction pairs generalizing g with
  | nil => exact apart_unchanged split _
  | cons pair pairs ih =>
    obtain ⟨outer, inner⟩ := pair
    obtain ⟨first, second⟩ := known (outer, inner) (List.mem_cons_self ..)
    have step : Apart S g (composeInto draw g outer inner).result
        (composeInto draw (g.restrict S) outer inner).result :=
      apart_composeInto none split nofun first second
    rw [composeEach, composeEach]
    generalize composeInto draw g outer inner = effect at step ⊢
    generalize composeInto draw (g.restrict S) outer inner = alone at step ⊢
    obtain ⟨h, outcome⟩ := effect
    obtain ⟨k, outcome'⟩ := alone
    obtain rfl : h.restrict S = k := step.inside
    obtain rfl : outcome = outcome' := step.same
    dsimp only
    cases outcome with
    | error e => exact step.stop _
    | ok report =>
      have others := ih step.splits fun other member => known other (List.mem_cons_of_mem _ member)
      exact step.trans (others.map ((report :: ·) <$> ·))

theorem apart_composeRow (name : Option String) {names : List String} (split : g.Splits S)
    (given : ∀ n, name = some n → n ∈ S) (known : ∀ n ∈ names, n ∈ S) :
    Apart S g (composeRow (drawAs name) g names).result
      (composeRow (drawAs name) (g.restrict S) names).result := by
  have steps : Apart S g (g.composeEach (neighbours names))
      ((g.restrict S).composeEach (neighbours names)) :=
    apart_composeEach split (forall_neighbours known)
  unfold composeRow
  generalize g.composeEach (neighbours names) = result at steps ⊢
  generalize (g.restrict S).composeEach (neighbours names) = alone at steps ⊢
  obtain ⟨h, outcome⟩ := result
  obtain ⟨k, outcome'⟩ := alone
  obtain rfl : h.restrict S = k := steps.inside
  obtain rfl : outcome = outcome' := steps.same
  have splits : h.Splits S := steps.splits
  cases outcome with
  | error e => exact steps.stop _
  | ok reports =>
    have row : names.filterMap (h.restrict S).arrow? = names.filterMap h.arrow? :=
      List.filterMap_congr fun n member => arrow?_restrict splits (known n member)
    dsimp only
    rw [row]
    split
    · exact steps.stop _
    · cases composed : composeAll (names.filterMap h.arrow?) with
      | error e => exact steps.stop _
      | ok whole =>
        have ends : ∀ a ∈ names.filterMap h.arrow?, a.source ∈ S ∧ a.target ∈ S := by
          intro a member
          obtain ⟨n, inRow, found⟩ := List.mem_filterMap.mp member
          obtain ⟨drawn, named⟩ := arrow?_some found
          have inside := Arrow.inside_iff.mp (splits.of_name drawn named (known n inRow))
          exact ⟨inside.1, inside.2.1⟩
        obtain ⟨starts, ends⟩ := ends_of_composeAll ends composed
        have inside : Arrow.Inside S ⟨whole.source, whole.target, name⟩ :=
          Arrow.inside_iff.mpr ⟨starts, ends, given⟩
        exact steps.trans ((apart_attempt splits inside).report fun notice =>
          Report.merge [Report.merge reports, notice.report])

theorem apart_drawEach {pairs : List (String × String)} (split : g.Splits S)
    (known : ∀ pair ∈ pairs, pair.1 ∈ S ∧ pair.2 ∈ S) :
    Apart S g (g.drawEach pairs) ((g.restrict S).drawEach pairs) := by
  induction pairs generalizing g with
  | nil => exact apart_unchanged split _
  | cons pair pairs ih =>
    obtain ⟨source, target⟩ := pair
    obtain ⟨starts, ends⟩ := known (source, target) (List.mem_cons_self ..)
    have first : Apart S g (g.draw source target) ((g.restrict S).draw source target) :=
      apart_draw split starts ends
    have others := ih first.splits fun other member => known other (List.mem_cons_of_mem _ member)
    rw [drawEach, drawEach]
    rw [first.inside] at others
    rw [first.same]
    exact first.trans (others.map (_ :: ·))

theorem apart_drawRow {objects : List String} (split : g.Splits S) (known : ∀ n ∈ objects, n ∈ S) :
    Apart S g (g.drawRow objects) ((g.restrict S).drawRow objects) := by
  have drawn := apart_drawEach split (forall_neighbours known)
  exact drawn.map fun notices => Report.merge (notices.map Notice.report)

theorem apart_drawNamedRow {name : String} {objects : List String} (split : g.Splits S)
    (given : name ∈ S) (known : ∀ n ∈ objects, n ∈ S) :
    Apart S g (g.drawNamedRow name objects).result
      ((g.restrict S).drawNamedRow name objects).result := by
  have links := apart_drawRow split known
  unfold drawNamedRow
  generalize g.drawRow objects = drawn at links ⊢
  generalize (g.restrict S).drawRow objects = alone at links ⊢
  obtain ⟨h, report⟩ := drawn
  obtain ⟨k, report'⟩ := alone
  obtain rfl : h.restrict S = k := links.inside
  obtain rfl : report = report' := links.same
  have splits : h.Splits S := links.splits
  dsimp only
  split
  · exact links.stop _
  · split
    · rename_i first last starts ends
      have named := apart_drawNamed splits given (known first (List.mem_of_head? starts))
        (known last (List.mem_of_getLast? ends))
      exact links.trans (named.report fun notice => Report.merge [report, notice.report])
    · exact links.stop _

/-- A statement with words inside takes place among the arrows inside. -/
theorem apart_perform {s : Statement} (split : g.Splits S) (known : ∀ word ∈ s.labels, word ∈ S) :
    Apart S g (s.perform g).result (s.perform (g.restrict S)).result := by
  cases s with
  | skip => exact apart_unchanged split _
  | unspecified => exact apart_unchanged split _
  | describe name =>
    simp only [Statement.labels, List.forall_mem_singleton] at known
    rw [Statement.perform, Statement.perform, describe_restrict split known]
    exact apart_unchanged split _
  | findRoute origin destination =>
    simp only [Statement.labels, List.forall_mem_cons] at known
    rw [Statement.perform, Statement.perform, findRoute_restrict split known.1 known.2.1]
    exact apart_unchanged split _
  | draw source target =>
    simp only [Statement.labels, List.forall_mem_cons] at known
    exact (apart_draw split known.1 known.2.1).report Notice.report
  | drawNamed name source target =>
    simp only [Statement.labels, List.forall_mem_cons] at known
    exact (apart_drawNamed split known.1 known.2.1 known.2.2.1).report Notice.report
  | compose outer inner =>
    simp only [Statement.labels, List.forall_mem_cons] at known
    exact apart_composeInto none split nofun known.1 known.2.1
  | composeNamed name outer inner =>
    simp only [Statement.labels, List.forall_mem_cons] at known
    refine apart_composeInto (some name) split ?_ known.2.1 known.2.2.1
    exact fun _ same => Option.some.inj same ▸ known.1
  | drawChain objects => exact (apart_drawRow split known).report id
  | drawNamedChain name objects =>
    obtain ⟨given, inRow⟩ := List.forall_mem_cons.mp known
    exact apart_drawNamedRow split given inRow
  | composeChain arrows => exact apart_composeRow none split nofun known
  | composeNamedChain name arrows =>
    obtain ⟨given, inRow⟩ := List.forall_mem_cons.mp known
    refine apart_composeRow (some name) split ?_ inRow
    exact fun _ same => Option.some.inj same ▸ given

end Graph

namespace Command

open ArrowGraph.Graph (Apart apart_perform apart_unchanged)

variable {S : Set String} [DecidablePred (· ∈ S)]

mutual

theorem apart_apply {g : Graph} (split : g.Splits S) : ∀ c : Command,
    (∀ word ∈ c.labels, word ∈ S) → Apart S g (c.apply g).result (c.apply (g.restrict S)).result
  | .single s, known => by
    rw [labels_single] at known
    exact apart_perform split known
  | .batch commands, known => by
    exact (apart_applyEach split commands known).map (Report.merge <$> ·)

theorem apart_applyEach {g : Graph} (split : g.Splits S) : ∀ cs : List Command,
    (∀ word ∈ (batch cs).labels, word ∈ S) →
      Apart S g (applyEach g cs).result (applyEach (g.restrict S) cs).result
  | [], _ => apart_unchanged split _
  | c :: cs, known => by
    rw [labels_batch_cons, List.forall_mem_append] at known
    have first := apart_apply split c known.1
    rw [applyEach, applyEach]
    generalize c.apply g = run at first ⊢
    generalize c.apply (g.restrict S) = alone at first ⊢
    obtain ⟨h, events, outcome⟩ := run
    obtain ⟨k, events', outcome'⟩ := alone
    obtain rfl : h.restrict S = k := first.inside
    obtain rfl : outcome = outcome' := first.same
    dsimp only
    cases outcome with
    | error e => exact first.stop _
    | ok report =>
      have others := apart_applyEach first.splits cs known.2
      exact first.trans (others.map ((report :: ·) <$> ·))

end

end Command

namespace Graph

variable {S : Set String} [DecidablePred (· ∈ S)]

/-- What a command comes to and does depends on the arrows over its own words only, and it leaves
all other arrows as they are. -/
theorem unrelated_unnoticed {g : Graph} {c : Command} (split : g.Splits S)
    (known : ∀ word ∈ c.labels, word ∈ S) :
    (c.apply g).outcome = (c.apply (g.restrict S)).outcome ∧
      (c.apply g).graph.restrict S = (c.apply (g.restrict S)).graph ∧
      (c.apply g).graph.outside S = g.outside S ∧
      (c.apply g).graph.Splits S := by
  have apart := Command.apart_apply split c known
  exact ⟨apart.same, apart.inside, apart.outside, apart.splits⟩

/-- The arrows over `x` and `y` lie between those of a row. A route is found, the row is composed up
to two arrows that do not meet, and the last command of the batch is not reached. -/
theorem unrelated_unnoticed_row :
    let S : Set String := {word | word ∈ ["a", "b", "c", "f", "g", "h"]}
    let g : Graph := ⟨[⟨"x", "y", some "p"⟩, ⟨"b", "c", some "g"⟩, ⟨"y", "x", none⟩,
      ⟨"a", "b", some "f"⟩, ⟨"x", "x", some ""⟩]⟩
    let c : Command := .batch [.single (.findRoute "a" "c"),
      .batch [.single (.composeNamedChain "h" ["g", "f", "g"])], .single (.draw "c" "a")]
    g.Splits S ∧ (∀ word ∈ c.labels, word ∈ S) ∧
      (c.apply g).outcome =
        .error (.mismatch ⟨⟨"a", "b", some "f"⟩, ⟨"b", "c", some "g"⟩⟩) ∧
      (c.apply g).graph = g.add ⟨"a", "c", none⟩ ∧
      (c.apply g).outcome = (c.apply (g.restrict S)).outcome ∧
      (c.apply g).graph.restrict S = (c.apply (g.restrict S)).graph ∧
      (c.apply g).graph.outside S = g.outside S ∧
      (c.apply g).graph.Splits S := by
  intro S g c
  have split : g.Splits S := by simp [Splits, Arrow.Inside, Arrow.labels, g, S]
  have known : ∀ word ∈ c.labels, word ∈ S := by
    simp [Command.labels, Command.statements, Command.statementsEach, Statement.labels, c, S]
  refine ⟨split, known, by decide +kernel, by decide +kernel, ?_⟩
  exact unrelated_unnoticed split known

end Graph
end ArrowGraph
