import ArrowGraph.Proofs.Command.Breakdown
import ArrowGraph.Proofs.Command.Refusal
import ArrowGraph.Proofs.Session.Rendering
import ArrowGraph.Proofs.Session.Step

namespace ArrowGraph

open Statement (performEach)

namespace Statement

theorem definite_statement (making : Making) (name : Option String) {labels : List String}
    (several : 2 ≤ labels.length) : (making.statement name labels).Definite := by
  match labels, several with
  | [_, _], _ => cases making <;> cases name <;> trivial
  | first :: _ :: _ :: others, several =>
    cases making <;> cases name
    · trivial
    · exact List.cons_ne_nil _ _
    · exact several
    · exact several

theorem Asked.definite {operators : List Operator} {words : List String} {s : Statement}
    (form : Asked operators words s) (fits : words.length = operators.length + 1) : s.Definite := by
  cases form with
  | route => trivial
  | row making linked =>
    rw [List.length_replicate] at fits
    exact definite_statement making none (by omega)
  | definition making linked name =>
    simp only [List.length_cons, List.length_replicate] at fits
    exact definite_statement making (some name) (by omega)

end Statement

namespace Expr

mutual

theorem definite_of_means {e : Expr} {c : Command} : e.Means c → ∀ s ∈ c.statements, s.Definite
  | .absent | .label _ => by
    rw [Command.statements, List.forall_mem_singleton]
    trivial
  | .asked form => by
    rw [Command.statements, List.forall_mem_singleton]
    exact form.definite (by simp)
  | .statements each => definiteEach_of_means each

theorem definiteEach_of_means {es : List Expr} {cs : List Command} : List.Forall₂ Means es cs →
    ∀ s ∈ Command.statementsEach cs, s.Definite
  | .nil => nofun
  | .cons first others =>
    List.forall_mem_append.mpr ⟨definite_of_means first, definiteEach_of_means others⟩

end

theorem IsStatement.leftsSigned {e : Expr} (statement : IsStatement e) : e.LeftsSigned := by
  induction statement with
  | label => trivial
  | operation _ _ _ ih => exact ⟨List.forall_mem_nil _, ih⟩

theorem leftsSignedEach {es : List Expr} (each : ∀ e ∈ es, LeftsSigned e) : LeftsSignedEach es := by
  induction es with
  | nil => trivial
  | cons e es ih =>
    obtain ⟨here, others⟩ := List.forall_mem_cons.mp each
    exact ⟨here, ih others⟩

theorem IsLine.leftsSigned {e : Expr} (isLine : IsLine e) : e.LeftsSigned := by
  cases isLine with
  | single statement => exact statement.leftsSigned
  | list _ each => exact leftsSignedEach fun e member => (each e member).leftsSigned

theorem kind_of_scanned {line : String} {ts : List Token} {e : Expr} {error : MeaningError}
    (scanned : Token.scan line = .ok ts) (accepted : (read ts).result = .ok e)
    (meaningless : Command.ofExpr e = .error error) : error.kind = .meaning := by
  have shown := message_of_refused (isLine_of_scan scanned accepted).leftsSigned meaningless
  rw [MeaningError.kind, shown, if_pos rfl]

end Expr

namespace Command

/-- The failures of a line that is no command. -/
theorem kind_of_ofLine {line : String} {failure : Failure}
    (refused : (ofLine line).command = .error failure) :
    failure.kind ∈ [FailureKind.scan, .parse, .meaning] := by
  rw [ofLine] at refused
  split at refused
  · cases refused
    simp [Failure.kind]
  · rename_i tokens scanned
    split at refused
    · cases refused
      simp [Failure.kind]
    · rename_i tree accepted
      split at refused
      · rename_i error meaningless
        cases refused
        simp [Failure.kind, Expr.kind_of_scanned scanned accepted meaningless]
      · cases refused

theorem definite_of_ofLine {line : String} {c : Command} (read : (ofLine line).command = .ok c) :
    ∀ s ∈ c.statements, s.Definite := by
  obtain ⟨_, _, _, _, meant⟩ := ofLine_eq_ok_iff.mp read
  exact Expr.definite_of_means (Expr.means_of_ofExpr meant)

end Command

namespace Graph

/-- What a line on a graph can come to, and the graph that is left. -/
inductive Evaluated (g : Graph) (line : String) : Graph → Except Failure Report → Prop where
  | reported {c : Command} {report : Report} (read : (Command.ofLine line).command = .ok c) :
      Evaluated g line (c.apply g).graph (.ok report)
  | refused {failure : Failure} (kind : failure.kind ∈ [FailureKind.scan, .parse, .meaning]) :
      Evaluated g line g (.error failure)
  /-- Two arrows do not meet. The statement composes them, and was reached without breakdown. -/
  | broken {c : Command} {before after : List Statement} {s : Statement} {good : Bool}
      {pair : String × String} {clash : Mismatch}
      (read : (Command.ofLine line).command = .ok c)
      (stands : c.statements = before ++ s :: after)
      (reached : (performEach g before).2 = .ok good)
      (composed : pair ∈ s.composedPairs)
      (clashes : (performEach g before).1.Clash pair clash) :
      Evaluated g line (s.perform (performEach g before).1).graph
        (.error (.apply (.mismatch clash)))

theorem evaluated (g : Graph) (line : String) :
    g.Evaluated line (g.evaluate line).graph (g.evaluate line).outcome := by
  cases read : (Command.ofLine line).command with
  | error failure =>
    simp only [evaluate, read]
    exact .refused (Command.kind_of_ofLine read)
  | ok c =>
    simp only [evaluate, read]
    cases done : (c.apply g).outcome with
    | ok report => exact .reported read
    | error e =>
      have broken : (performEach g c.statements).2 = .error e := by
        rw [Command.apply_flat, done]
        rfl
      obtain ⟨before, s, after, good, stands, reached, here, left⟩ :=
        Statement.performEach_broken broken
      have definite : s.Definite := Command.definite_of_ofLine read s (by simp [stands])
      obtain ⟨pair, composed, clash, rfl, clashes⟩ := Statement.clash_of_perform definite here
      rw [Command.apply_graph, left]
      exact .broken read stands reached composed clashes

/-- Every line comes to a report, is refused, or breaks down at two arrows that do not meet. No
other failure comes from a line, but commands that no line asks for can fail otherwise. -/
theorem evaluate_documented :
    (∀ (g : Graph) (line : String),
      g.Evaluated line (g.evaluate line).graph (g.evaluate line).outcome) ∧
    (∀ (g : Graph) (line : String) (failure : Failure),
      (g.evaluate line).outcome = .error failure →
        failure.kind ∈ [FailureKind.scan, .parse, .meaning, .composition]) ∧
    ∀ g : Graph, ∀ kind ∈ [FailureKind.control, .foreign "IndexError", .foreign "TypeError"],
      ∃ (c : Command) (error : ApplyError),
        (c.apply g).outcome = .error error ∧ error.kind = kind := by
  refine ⟨evaluated, ?_, ?_⟩
  · intro g line failure failed
    have outcome := evaluated g line
    rw [failed] at outcome
    generalize (g.evaluate line).graph = h at outcome
    cases outcome with
    | refused kind => exact List.mem_append_left [.composition] kind
    | broken => simp [Failure.kind, ApplyError.kind]
  · simp only [List.forall_mem_cons]
    intro g
    refine ⟨⟨.single .unspecified, _, rfl, rfl⟩,
      ⟨.single (.drawNamedChain "f" []), _, rfl, rfl⟩,
      ⟨.single (.composeChain []), _, rfl, rfl⟩, List.forall_mem_nil _⟩

/-- A line that is refused for its last statement draws nothing. One that breaks down there has
drawn two arrows. -/
theorem evaluate_documented_last :
    empty.Evaluated "f: a -> b; g: f" empty
      (.error (.meaning (.notDefinable "g" (.label "f") (.single (.describe "f"))))) ∧
    empty.Evaluated "f: a -> b; g: c -> d; g . f"
      ⟨[⟨"a", "b", some "f"⟩, ⟨"c", "d", some "g"⟩]⟩
      (.error (.apply (.mismatch ⟨⟨"c", "d", some "g"⟩, ⟨"a", "b", some "f"⟩⟩))) ∧
    FailureKind.composition ∈ [FailureKind.scan, .parse, .meaning, .composition] ∧
    ∃ (c : Command) (error : ApplyError),
      (c.apply empty).outcome = .error error ∧ error.kind = .foreign "IndexError" := by
  have unfinished := evaluate_documented.1 empty "f: a -> b; g: f"
  have apart := evaluate_documented.1 empty "f: a -> b; g: c -> d; g . f"
  have kept : (empty.evaluate "f: a -> b; g: f").graph = empty := by decide +kernel
  have undefined : (empty.evaluate "f: a -> b; g: f").outcome =
      .error (.meaning (.notDefinable "g" (.label "f") (.single (.describe "f")))) := by
    decide +kernel
  have drawn : (empty.evaluate "f: a -> b; g: c -> d; g . f").graph =
      ⟨[⟨"a", "b", some "f"⟩, ⟨"c", "d", some "g"⟩]⟩ := by
    decide +kernel
  have broken : (empty.evaluate "f: a -> b; g: c -> d; g . f").outcome =
      .error (.apply (.mismatch ⟨⟨"c", "d", some "g"⟩, ⟨"a", "b", some "f"⟩⟩)) := by
    decide +kernel
  rw [kept, undefined] at unfinished
  rw [drawn, broken] at apart
  exact ⟨unfinished, apart, evaluate_documented.2.1 _ _ _ broken,
    evaluate_documented.2.2 empty (.foreign "IndexError") (by simp)⟩

end Graph
end ArrowGraph
