import ArrowGraph.Proofs.Command.Reached
import ArrowGraph.Proofs.Session.Failing

namespace ArrowGraph

open Token (scan)

namespace Graph

/-- All that is put on record of a line when details are kept. -/
def journal (g : Graph) (line : String) : List Event :=
  (g.evaluate line).events.filter (·.reaches Level.debug.weight)

theorem journal_eq (g : Graph) (line : String) : g.journal line = (g.evaluate line).events := by
  refine List.filter_eq_self.mpr fun event _ => ?_
  cases kept : event.level <;> simp [Event.reaches, Level.weight, kept]

/-- What a line on a graph comes to, and the journal of it. -/
inductive Journalled (g : Graph) (line : String) : List Event → Except Failure Report → Prop where
  | unscanned {error : Token.ScanError} (stuck : scan line = .error error) :
      Journalled g line [] (.error (.scan error))
  | unread {ts : List Token} {error : ParseError} (scanned : scan line = .ok ts)
      (misplaced : (Expr.read ts).result = .error error) :
      Journalled g line [.tokens ts] (.error (.parse error))
  | meaningless {ts : List Token} {e : Expr} {error : MeaningError} (scanned : scan line = .ok ts)
      (read : (Expr.read ts).result = .ok e) (meaningless : Command.ofExpr e = .error error)
      (said : error.kind = .meaning) :
      Journalled g line [.tokens ts, .tree e] (.error (.meaning error))
  | broken {ts : List Token} {e : Expr} {c : Command} {error : ApplyError}
      (scanned : scan line = .ok ts) (read : (Expr.read ts).result = .ok e)
      (meant : Command.ofExpr e = .ok c) (broken : (c.apply g).outcome = .error error) :
      Journalled g line ([.tokens ts, .tree e, .command c] ++ (c.reach g).records)
        (.error (.apply error))
  | reported {ts : List Token} {e : Expr} {c : Command} {report : Report}
      (scanned : scan line = .ok ts) (read : (Expr.read ts).result = .ok e)
      (meant : Command.ofExpr e = .ok c) (done : (c.apply g).outcome = .ok report) :
      Journalled g line ([.tokens ts, .tree e, .command c] ++ (c.reach g).records) (.ok report)

theorem journalled (g : Graph) (line : String) :
    g.Journalled line (g.journal line) (g.evaluate line).outcome := by
  rw [journal_eq]
  cases scanned : scan line with
  | error error =>
    simp only [evaluate, Command.ofLine, scanned]
    exact .unscanned scanned
  | ok ts =>
    cases read : (Expr.read ts).result with
    | error error =>
      simp only [evaluate, Command.ofLine, scanned, read]
      exact .unread scanned read
    | ok e =>
      cases meant : Command.ofExpr e with
      | error error =>
        simp only [evaluate, Command.ofLine, scanned, read, meant]
        exact .meaningless scanned read meant (Expr.kind_of_scanned scanned read meant)
      | ok c =>
        simp only [evaluate, Command.ofLine, scanned, read, meant, Command.apply_events]
        cases outcome : (c.apply g).outcome with
        | error error => exact .broken scanned read meant outcome
        | ok report => exact .reported scanned read meant outcome

/-- The journal of a line tells its failure exactly. A line that is no command leaves no record but
of the stages before the one that refused it. Any other is on record with its tokens, its tree and
its command, and then comes what was reached of the command, in order, with the records of a batch
around those of its parts. A report tells of failure exactly if some record does, one for each
command that failed, and the last of them is that of the whole command. -/
theorem journal_tells_failures :
    (∀ (g : Graph) (line : String) (failure : Failure),
      (g.evaluate line).outcome = .error failure →
        (failure.kind = .scan → g.journal line = []) ∧
        (failure.kind = .parse → ∃ ts, scan line = .ok ts ∧ g.journal line = [.tokens ts]) ∧
        (failure.kind = .meaning → ∃ ts e, scan line = .ok ts ∧ (Expr.read ts).result = .ok e ∧
          g.journal line = [.tokens ts, .tree e])) ∧
    (∀ (g : Graph) (line : String),
      (∀ failure, (g.evaluate line).outcome = .error failure →
        failure.kind ∉ [FailureKind.scan, .parse, .meaning]) →
      ∃ ts e c, scan line = .ok ts ∧ (Expr.read ts).result = .ok e ∧ Command.ofExpr e = .ok c ∧
        g.journal line = [.tokens ts, .tree e, .command c] ++ (c.reach g).records ∧
        (c.reach g).records.filter (·.level = .debug) = (c.reach g).commands.map .applying ∧
        (c.reach g).records.filter (·.level = .info) =
          (c.reach g).failures.map (Function.uncurry .failed) ∧
        (c.reach g).commands <+: c.withParts) ∧
    ∀ (g : Graph) (line : String) (report : Report), (g.evaluate line).outcome = .ok report →
      (report.ok = false ↔ ∃ event ∈ g.journal line, event.level = .info) ∧
      ∃ c, (Command.ofLine line).command = .ok c ∧ (c.reach g).commands = c.withParts ∧
        (g.journal line).filter (·.level = .info) =
          (c.reach g).failures.map (Function.uncurry .failed) ∧
        (report.ok = false → (g.journal line).getLast? = some (.failed c report)) := by
  refine ⟨?_, ?_, ?_⟩
  · intro g line failure failed
    have told := journalled g line
    rw [failed] at told
    generalize g.journal line = log at told
    cases told with
    | unscanned => simp [Failure.kind]
    | unread scanned => simp [Failure.kind, scanned]
    | meaningless scanned read _ said => simp [Failure.kind, scanned, read, said]
    | @broken _ _ _ error => cases error <;> simp [Failure.kind, ApplyError.kind]
  · intro g line reached
    have told := journalled g line
    generalize (g.evaluate line).outcome = outcome at told reached
    generalize g.journal line = log at told
    cases told with
    | unscanned | unread => exact absurd (reached _ rfl) (by simp [Failure.kind])
    | meaningless _ _ _ said => exact absurd (reached _ rfl) (by simp [Failure.kind, said])
    | @broken ts e c error scanned read meant | @reported ts e c report scanned read meant =>
      exact ⟨ts, e, c, scanned, read, meant, rfl, Reached.records_debug _, Reached.records_info _,
        Command.commands_initial g c⟩
  · intro g line report reported
    have told := journalled g line
    rw [reported] at told
    generalize g.journal line = log at told
    cases told with
    | @reported ts e c _ scanned read meant done =>
      refine ⟨?_, c, Command.ofLine_eq_ok_iff.mpr ⟨ts, e, scanned, read, meant⟩,
        Command.commands_of_reported c done, ?_, ?_⟩
      · rw [Command.not_ok_iff_info done]
        simp [Event.level]
      · rw [List.filter_append, Reached.records_info]
        rfl
      · intro bad
        rw [List.getLast?_append, Command.getLast?_records done bad]
        rfl

/-- The second statement of a line fails, and with it the line. A line that ends with a sign is on
record with its tokens only. -/
theorem journal_tells_failures_taken :
    (empty.evaluate "f: a -> b; f: c -> d").outcome =
      .ok (.failure "Drew arrow f: a -> b\nArrow name f is already taken") ∧
    (∃ event ∈ empty.journal "f: a -> b; f: c -> d", event.level = .info) ∧
    (empty.journal "f: a -> b; f: c -> d").getLast? =
      some (.failed (.batch [.single (.drawNamed "f" "a" "b"), .single (.drawNamed "f" "c" "d")])
        (.failure "Drew arrow f: a -> b\nArrow name f is already taken")) ∧
    (∃ ts e c, scan "f: a -> b; f: c -> d" = .ok ts ∧ (Expr.read ts).result = .ok e ∧
      Command.ofExpr e = .ok c ∧ empty.journal "f: a -> b; f: c -> d" =
        [.tokens ts, .tree e, .command c] ++ (c.reach empty).records) ∧
    (empty.evaluate "f ->").outcome =
      .error (.parse (.rightMissing ⟨.label, "f", 1⟩ ⟨.arrow, "->", 3⟩)) ∧
    ∃ ts, scan "f ->" = .ok ts ∧ empty.journal "f ->" = [.tokens ts] := by
  have taken : (empty.evaluate "f: a -> b; f: c -> d").outcome =
      .ok (.failure "Drew arrow f: a -> b\nArrow name f is already taken") := by
    decide +kernel
  have unfinished : (empty.evaluate "f ->").outcome =
      .error (.parse (.rightMissing ⟨.label, "f", 1⟩ ⟨.arrow, "->", 3⟩)) := by
    decide +kernel
  have asked : (Command.ofLine "f: a -> b; f: c -> d").command =
      .ok (.batch [.single (.drawNamed "f" "a" "b"), .single (.drawNamed "f" "c" "d")]) := by
    decide +kernel
  obtain ⟨told, c, read, -, -, last⟩ := journal_tells_failures.2.2 _ _ _ taken
  obtain rfl := Except.ok.inj (read.symm.trans asked)
  have reached : ∀ failure, (empty.evaluate "f: a -> b; f: c -> d").outcome = .error failure →
      failure.kind ∉ [FailureKind.scan, .parse, .meaning] := by
    intro failure failed
    cases taken.symm.trans failed
  obtain ⟨ts, e, c, scanned, accepted, meant, whole, -⟩ := journal_tells_failures.2.1 _ _ reached
  exact ⟨taken, told.mp rfl, last rfl, ⟨ts, e, c, scanned, accepted, meant, whole⟩, unfinished,
    (journal_tells_failures.1 _ _ _ unfinished).2.1 rfl⟩

end Graph
end ArrowGraph
