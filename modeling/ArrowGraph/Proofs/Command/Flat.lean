import ArrowGraph.Command.Apply
import ArrowGraph.Proofs.Outcome

/-! Commands without nesting. As far as graph, breakdown and success go, a command does what its
statements do one after another, up to the first that breaks down. Messages are not covered. -/
namespace ArrowGraph

def Succeeds {ε : Type} (outcome : Except ε Report) : Prop :=
  ∃ report, outcome = .ok report ∧ report.ok = true

/-- The graph after some statements, and their breakdown or whether all of them succeeded. -/
def Statement.performEach (g : Graph) : List Statement → Graph × Except ApplyError Bool
  | [] => (g, .ok true)
  | s :: ss =>
    let first := s.perform g
    match first.outcome with
    | .error e => (first.graph, .error e)
    | .ok report =>
      let others := performEach first.graph ss
      (others.1, (report.ok && ·) <$> others.2)

open Statement (performEach)

theorem performEach_error {s : Statement} {g : Graph} {e : ApplyError}
    (broken : (s.perform g).outcome = .error e) (ss : List Statement) :
    performEach g (s :: ss) = ((s.perform g).graph, .error e) := by
  simp [performEach, broken]

theorem performEach_ok {s : Statement} {g : Graph} {report : Report}
    (done : (s.perform g).outcome = .ok report) (ss : List Statement) :
    performEach g (s :: ss) =
      ((performEach (s.perform g).graph ss).1,
        (report.ok && ·) <$> (performEach (s.perform g).graph ss).2) := by
  simp [performEach, done]

theorem performEach_singleton (g : Graph) (s : Statement) :
    performEach g [s] = ((s.perform g).graph, Report.ok <$> (s.perform g).outcome) := by
  cases done : (s.perform g).outcome with
  | error e => rw [performEach_error done]; rfl
  | ok report =>
    rw [performEach_ok done]
    simp [performEach, Functor.map, Except.map]

theorem performEach_append (g : Graph) (ss ts : List Statement) :
    performEach g (ss ++ ts) =
      match performEach g ss with
      | (h, .error e) => (h, .error e)
      | (h, .ok done) => ((performEach h ts).1, (done && ·) <$> (performEach h ts).2) := by
  induction ss generalizing g with
  | nil =>
    cases rest : (performEach g ts).2 <;>
      simp [performEach, Functor.map, Except.map, rest, Prod.ext_iff]
  | cons s ss ih =>
    cases first : (s.perform g).outcome with
    | error e =>
      simp only [List.cons_append, performEach_error first]
    | ok report =>
      rw [List.cons_append, performEach_ok first, performEach_ok first, ih]
      obtain ⟨h, middle⟩ := performEach (s.perform g).graph ss
      cases middle with
      | error e => rfl
      | ok done =>
        cases last : (performEach h ts).2 <;>
          simp [Functor.map, Except.map, last, Bool.and_assoc]

namespace Command

mutual

/-- The statements of a command, in the order in which they are carried out. -/
def statements : Command → List Statement
  | .single s => [s]
  | .batch commands => statementsEach commands

def statementsEach : List Command → List Statement
  | [] => []
  | c :: cs => statements c ++ statementsEach cs

end

section

variable {g : Graph} {c : Command} {cs : List Command}

theorem applyEach_error {e : ApplyError} (broken : (c.apply g).outcome = .error e)
    (cs : List Command) :
    applyEach g (c :: cs) = ⟨(c.apply g).graph, (c.apply g).events, .error e⟩ := by
  simp [applyEach, broken]

theorem applyEach_ok {report : Report} (done : (c.apply g).outcome = .ok report)
    (cs : List Command) :
    applyEach g (c :: cs) =
      ⟨(applyEach (c.apply g).graph cs).graph,
        (c.apply g).events ++ (applyEach (c.apply g).graph cs).events,
        (report :: ·) <$> (applyEach (c.apply g).graph cs).outcome⟩ := by
  simp [applyEach, done]

theorem applyEach_cons_ok {reports : List Report}
    (done : (applyEach g (c :: cs)).outcome = .ok reports) :
    ∃ report others, (c.apply g).outcome = .ok report ∧
      (applyEach (c.apply g).graph cs).outcome = .ok others ∧ report :: others = reports := by
  cases first : (c.apply g).outcome with
  | error e =>
    rw [applyEach_error first] at done
    cases done
  | ok report =>
    rw [applyEach_ok first, map_eq_ok_iff] at done
    obtain ⟨others, rest, rfl⟩ := done
    exact ⟨report, others, rfl, rest, rfl⟩

end

mutual

theorem apply_flat (g : Graph) : ∀ c : Command,
    performEach g c.statements = ((c.apply g).graph, Report.ok <$> (c.apply g).outcome)
  | .single s => by
    rw [statements, performEach_singleton]
    rfl
  | .batch commands => by
    rw [statements, applyEach_flat g commands, apply]
    cases (applyEach g commands).outcome <;> rfl

theorem applyEach_flat (g : Graph) : ∀ cs : List Command,
    performEach g (statementsEach cs) =
      ((applyEach g cs).graph, (List.all · Report.ok) <$> (applyEach g cs).outcome)
  | [] => rfl
  | c :: cs => by
    rw [statementsEach, performEach_append, apply_flat g c]
    cases first : (c.apply g).outcome with
    | error e =>
      rw [applyEach_error first]
      rfl
    | ok report =>
      rw [applyEach_ok first]
      simp only [Functor.map, Except.map, applyEach_flat (c.apply g).graph cs]
      cases (applyEach (c.apply g).graph cs).outcome <;> rfl

end

theorem apply_graph (g : Graph) (c : Command) :
    (c.apply g).graph = (performEach g c.statements).1 := by
  rw [apply_flat]

theorem succeeds_apply_iff {g : Graph} {c : Command} :
    Succeeds (c.apply g).outcome ↔ (performEach g c.statements).2 = .ok true := by
  rw [apply_flat]
  cases (c.apply g).outcome with
  | error e => simp [Succeeds, Functor.map, Except.map]
  | ok report => simp [Succeeds, Functor.map, Except.map]

end Command
end ArrowGraph
