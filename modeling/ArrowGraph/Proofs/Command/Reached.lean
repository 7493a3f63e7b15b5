import ArrowGraph.Proofs.Command.Flat

/-! What is reached when a command is carried out: the command, and in a batch its parts up to the
first that breaks down. It is a tree, and the journal of the command is a walk through it. A record
on the way in says that a command was reached, one on the way out that it failed. -/
namespace ArrowGraph

/-- A command that was reached, what it came to, and what was reached within it. -/
inductive Reached where
  | mk (command : Command) (outcome : Except ApplyError Report) (within : List Reached)

namespace Reached

section

variable {α β : Type} (enter leave : Command → Except ApplyError Report → List α)

mutual

/-- Walk through all that was reached, and note something of each command on the way in and on the
way out. -/
def walk : Reached → List α
  | mk c outcome within => enter c outcome ++ walkEach within ++ leave c outcome

def walkEach : List Reached → List α
  | [] => []
  | r :: rs => walk r ++ walkEach rs

end

theorem walkEach_eq (rs : List Reached) :
    walkEach enter leave rs = rs.flatMap (walk enter leave) := by
  induction rs with
  | nil => rfl
  | cons r rs ih => rw [walkEach, ih, List.flatMap_cons]

mutual

/-- What is picked from a walk could have been picked on the way. -/
theorem filterMap_walk (pick : α → Option β) : ∀ r : Reached,
    (r.walk enter leave).filterMap pick =
      r.walk (fun c outcome => (enter c outcome).filterMap pick)
        (fun c outcome => (leave c outcome).filterMap pick)
  | mk c outcome within => by
    simp only [walk, List.filterMap_append, filterMap_walkEach pick within]

theorem filterMap_walkEach (pick : α → Option β) : ∀ rs : List Reached,
    (walkEach enter leave rs).filterMap pick =
      walkEach (fun c outcome => (enter c outcome).filterMap pick)
        (fun c outcome => (leave c outcome).filterMap pick) rs
  | [] => rfl
  | r :: rs => by
    simp only [walkEach, List.filterMap_append, filterMap_walk pick r, filterMap_walkEach pick rs]

end

end

def failure? : Except ApplyError Report → Option Report
  | .ok report => if report.ok then none else some report
  | .error _ => none

theorem failure?_ok_eq_none_iff {report : Report} :
    failure? (.ok report) = none ↔ report.ok = true := by
  simp [failure?]

theorem failure?_of_not_ok {report : Report} (bad : report.ok = false) :
    failure? (.ok report) = some report := by
  simp [failure?, bad]

def commands (r : Reached) : List Command :=
  r.walk (fun c _ => [c]) fun _ _ => []

/-- The commands that failed, with their reports, each after those within it. -/
def failures (r : Reached) : List (Command × Report) :=
  r.walk (fun _ _ => []) fun c outcome => (failure? outcome).toList.map (c, ·)

/-- The records of all that was reached. Those of a command stand around those of what is within
it. -/
def records (r : Reached) : List Event :=
  r.walk (fun c _ => [.applying c]) fun c outcome => (failure? outcome).toList.map (.failed c)

section

variable (c : Command) (outcome : Except ApplyError Report) (within : List Reached) (r : Reached)

theorem commands_mk : (mk c outcome within).commands = c :: within.flatMap commands := by
  rw [commands, walk, walkEach_eq, List.append_nil]
  rfl

theorem failures_mk : (mk c outcome within).failures =
    within.flatMap failures ++ (failure? outcome).toList.map (c, ·) := by
  rw [failures, walk, walkEach_eq, List.nil_append]
  rfl

theorem records_mk : (mk c outcome within).records =
    .applying c :: within.flatMap records ++ (failure? outcome).toList.map (.failed c) := by
  rw [records, walk, walkEach_eq]
  rfl

theorem records_debug : r.records.filter (·.level = .debug) = r.commands.map .applying := by
  rw [← List.filterMap_eq_filter, ← List.filterMap_eq_map, records, commands, filterMap_walk,
    filterMap_walk]
  congr 1
  funext c outcome
  cases failure? outcome <;> simp [Event.level]

theorem records_info :
    r.records.filter (·.level = .info) = r.failures.map (Function.uncurry .failed) := by
  rw [← List.filterMap_eq_filter, ← List.filterMap_eq_map, records, failures, filterMap_walk,
    filterMap_walk]
  congr 1
  funext c outcome
  cases failure? outcome <;> simp [Event.level]

theorem exists_info_iff :
    (∃ event ∈ r.records, event.level = .info) ↔ r.failures ≠ [] := by
  rw [Ne, ← List.map_eq_nil_iff (f := Function.uncurry Event.failed), ← records_info,
    List.filter_eq_nil_iff]
  simp

end

end Reached

namespace Command

mutual

def reach (g : Graph) : Command → Reached
  | .single s => .mk (.single s) ((Command.single s).apply g).outcome []
  | .batch commands =>
    .mk (.batch commands) ((Command.batch commands).apply g).outcome (reachEach g commands)

/-- What is reached of commands that are carried out one after another. Those after a breakdown
are not. -/
def reachEach (g : Graph) : List Command → List Reached
  | [] => []
  | c :: cs =>
    let first := c.apply g
    reach g c ::
      match first.outcome with
      | .error _ => []
      | .ok _ => reachEach first.graph cs

end

mutual

/-- All commands that a command consists of, each before its parts. -/
def withParts : Command → List Command
  | .single s => [.single s]
  | .batch commands => .batch commands :: partsEach commands

def partsEach : List Command → List Command
  | [] => []
  | c :: cs => withParts c ++ partsEach cs

end

theorem exists_reach_eq (g : Graph) (c : Command) :
    ∃ within, c.reach g = .mk c (c.apply g).outcome within := by
  cases c <;> exact ⟨_, rfl⟩

variable {g : Graph} {c : Command} {cs : List Command}

theorem reachEach_error {e : ApplyError} (broken : (c.apply g).outcome = .error e)
    (cs : List Command) : reachEach g (c :: cs) = [c.reach g] := by
  simp [reachEach, broken]

theorem reachEach_ok {report : Report} (done : (c.apply g).outcome = .ok report)
    (cs : List Command) : reachEach g (c :: cs) = c.reach g :: reachEach (c.apply g).graph cs := by
  simp [reachEach, done]

theorem failureEvents_eq (c : Command) (outcome : Except ApplyError Report) :
    c.failureEvents outcome = (Reached.failure? outcome).toList.map (.failed c) := by
  cases outcome with
  | error e => rfl
  | ok report => cases bad : report.ok <;> simp [failureEvents, Reached.failure?, bad]

mutual

/-- The journal of a command is a walk through what is reached. -/
theorem apply_events (g : Graph) : ∀ c : Command, (c.apply g).events = (c.reach g).records
  | .single s => by
    rw [reach, Reached.records_mk, ← failureEvents_eq, apply]
    rfl
  | .batch commands => by
    rw [reach, Reached.records_mk, ← failureEvents_eq, ← applyEach_events g commands, apply]

theorem applyEach_events (g : Graph) : ∀ cs : List Command,
    (applyEach g cs).events = (reachEach g cs).flatMap Reached.records
  | [] => rfl
  | c :: cs => by
    cases first : (c.apply g).outcome with
    | error e =>
      rw [applyEach_error first, reachEach_error first, List.flatMap_singleton]
      exact apply_events g c
    | ok report =>
      rw [applyEach_ok first, reachEach_ok first, List.flatMap_cons, ← apply_events g c,
        ← applyEach_events (c.apply g).graph cs]

end

mutual

theorem failures_eq_nil_iff {g : Graph} : ∀ (c : Command) {report : Report},
    (c.apply g).outcome = .ok report → ((c.reach g).failures = [] ↔ report.ok = true)
  | .single s, report, done => by
    rw [reach, Reached.failures_mk, done, ← Reached.failure?_ok_eq_none_iff]
    simp
  | .batch commands, report, done => by
    rw [reach, Reached.failures_mk, done]
    rw [apply, map_eq_ok_iff] at done
    obtain ⟨reports, each, rfl⟩ := done
    have within := failuresEach_eq_nil_iff commands each
    -- The batch itself is noted only if something within it is, so that it changes nothing.
    rw [← Report.merge_ok] at within
    simp [within, Reached.failure?_ok_eq_none_iff]

theorem failuresEach_eq_nil_iff {g : Graph} : ∀ (cs : List Command) {reports : List Report},
    (applyEach g cs).outcome = .ok reports →
      ((reachEach g cs).flatMap Reached.failures = [] ↔ ∀ report ∈ reports, report.ok = true)
  | [], _, done => by
    obtain rfl := Except.ok.inj done
    simp [reachEach]
  | c :: cs, _, done => by
    obtain ⟨report, others, first, rest, rfl⟩ := applyEach_cons_ok done
    rw [reachEach_ok first, List.flatMap_cons, List.append_eq_nil_iff, List.forall_mem_cons,
      failures_eq_nil_iff c first, failuresEach_eq_nil_iff cs rest]

end

theorem not_ok_iff_info {report : Report} (done : (c.apply g).outcome = .ok report) :
    report.ok = false ↔ ∃ event ∈ (c.reach g).records, event.level = .info := by
  rw [Reached.exists_info_iff, Ne, failures_eq_nil_iff c done, Bool.not_eq_true]

theorem getLast?_records {report : Report} (done : (c.apply g).outcome = .ok report)
    (bad : report.ok = false) : (c.reach g).records.getLast? = some (.failed c report) := by
  obtain ⟨within, shape⟩ := exists_reach_eq g c
  rw [shape, Reached.records_mk, done, Reached.failure?_of_not_ok bad]
  exact List.getLast?_concat

mutual

theorem commands_of_reported {g : Graph} : ∀ (c : Command) {report : Report},
    (c.apply g).outcome = .ok report → (c.reach g).commands = c.withParts
  | .single s, _, _ => Reached.commands_mk _ _ _
  | .batch commands, report, done => by
    rw [apply, map_eq_ok_iff] at done
    obtain ⟨reports, each, rfl⟩ := done
    rw [reach, Reached.commands_mk, withParts, commandsEach_of_reported commands each]

theorem commandsEach_of_reported {g : Graph} : ∀ (cs : List Command) {reports : List Report},
    (applyEach g cs).outcome = .ok reports →
      (reachEach g cs).flatMap Reached.commands = partsEach cs
  | [], _, _ => rfl
  | c :: cs, _, done => by
    obtain ⟨report, others, first, rest, rfl⟩ := applyEach_cons_ok done
    rw [reachEach_ok first, List.flatMap_cons, partsEach, commands_of_reported c first,
      commandsEach_of_reported cs rest]

end

mutual

/-- A command reaches its parts in order, and leaves out only later ones. -/
theorem commands_initial (g : Graph) : ∀ c : Command, (c.reach g).commands <+: c.withParts
  | .single s => by
    rw [reach, Reached.commands_mk]
    exact List.prefix_refl _
  | .batch commands => by
    rw [reach, Reached.commands_mk, withParts, List.prefix_cons_inj]
    exact commandsEach_initial g commands

theorem commandsEach_initial (g : Graph) : ∀ cs : List Command,
    (reachEach g cs).flatMap Reached.commands <+: partsEach cs
  | [] => List.prefix_refl _
  | c :: cs => by
    cases first : (c.apply g).outcome with
    | error e =>
      rw [reachEach_error first, List.flatMap_singleton, partsEach]
      exact (commands_initial g c).trans (List.prefix_append _ _)
    | ok report =>
      rw [reachEach_ok first, List.flatMap_cons, partsEach, commands_of_reported c first,
        List.prefix_append_right_inj]
      exact commandsEach_initial (c.apply g).graph cs

end

end Command
end ArrowGraph
