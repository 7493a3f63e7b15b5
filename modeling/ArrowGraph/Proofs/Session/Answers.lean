import ArrowGraph.Proofs.Command.Idle
import ArrowGraph.Proofs.Command.Origin
import ArrowGraph.Proofs.Graph.Shortest
import ArrowGraph.Proofs.Session.Told

namespace ArrowGraph

namespace Expr

variable {first : String} {others : List String}

theorem isStatement_row (labels : ∀ word ∈ first :: others, IsLabel word) :
    (row .arrow (first :: others)).IsStatement := by
  induction others generalizing first with
  | nil => exact .label (labels first (List.mem_cons_self ..))
  | cons next others ih =>
    obtain ⟨legal, rest⟩ := List.forall_mem_cons.mp labels
    exact .operation rfl legal (ih rest)

theorem renderAfter_row (first : String) (others : List String) (written : String) :
    (row .arrow (first :: others)).renderAfter? written =
      some (written ++ " -> ".intercalate (first :: others)) := by
  induction others generalizing first written with
  | nil => simp [row, chain, renderAfter?]
  | cons next others ih =>
    have rest := ih next (written ++ first ++ " ->" ++ " ")
    simp only [row, List.map_cons, chain, renderAfter?, Operator.sign?, Option.bind_eq_bind,
      Option.bind_some] at rest ⊢
    rw [rest]
    refine congrArg some (String.toList_injective ?_)
    simp [String.toList_intercalate]

theorem ofExpr_row_arrows (first second : String) (others : List String) :
    Command.ofExpr (row .arrow (first :: second :: others)) =
      .ok (.single (Making.arrows.statement none (first :: second :: others))) := by
  have shape : ((second :: others).map fun next => (Operator.arrow, next)).map Prod.fst =
      List.replicate (others.length + 1) Making.arrows.operator := by
    simp [Making.operator, List.replicate_succ, Function.comp_def]
  have words : ((second :: others).map fun next => (Operator.arrow, next)).map Prod.snd =
      second :: others := by
    simp [Function.comp_def]
  rw [row, ofExpr_row .arrows first (Nat.le_add_left 1 _) shape, words]

end Expr

namespace Graph

variable {g : Graph}

theorem linked_of_isChain {objects : List String} (chain : objects.IsChain g.Edge) :
    g.Linked objects := by
  induction chain with
  | nil => exact nofun
  | singleton => exact nofun
  | cons_cons edge _ ih => exact List.forall_mem_cons.mpr ⟨edge, ih⟩

theorem holds_arrows {first second : String} {others : List String}
    (linked : g.Linked (first :: second :: others)) :
    (Making.arrows.statement none (first :: second :: others)).Holds g := by
  cases others with
  | nil => exact has_iff_edge.mpr (linked _ (List.mem_cons_self ..))
  | cons => exact linked

theorem holds_statement {a : Arrow} (member : a ∈ g.arrows) : a.statement.Holds g := by
  have has : g.Has a := ⟨a, member, rfl, rfl, .inr rfl⟩
  obtain ⟨source, target, name⟩ := a
  cases name <;> exact has

/-- A line that asks for what holds succeeds and changes nothing. -/
theorem idle_evaluate {e : Expr} {s : Statement} {text : String} (legal : g.WellFormed)
    (isLine : e.IsLine) (rendered : e.render? = some text)
    (meant : Command.ofExpr e = .ok (.single s)) (holds : s.Holds g) :
    (g.evaluate text).graph = g ∧ Succeeds (g.evaluate text).outcome := by
  obtain ⟨report, idle, good⟩ := idle_perform legal holds
  have done := isLine.evaluate_text rendered g
  simp only [Expr.effect, meant, Command.apply, idle] at done
  obtain ⟨graph, outcome⟩ := Prod.mk.inj done
  exact ⟨graph, report, outcome, good⟩

theorem idle_route {origin destination : String} {objects : List String} (legal : g.Legal)
    (known : origin ∈ g.ends) (found : g.route origin destination = some objects) :
    (g.evaluate (" -> ".intercalate objects)).graph = g ∧
      Succeeds (g.evaluate (" -> ".intercalate objects)).outcome := by
  have walk := walk_of_route found
  have labels : ∀ word ∈ objects, IsLabel word :=
    labelled_route legal (legal.labels origin (List.mem_append_right _ known)) found
  cases objects with
  | nil => cases walk.starts
  | cons first others =>
    have isLine : (Expr.row .arrow (first :: others)).IsLine :=
      .single (Expr.isStatement_row labels)
    have rendered : (Expr.row .arrow (first :: others)).render? =
        some (" -> ".intercalate (first :: others)) := by
      simpa [Expr.render?] using Expr.renderAfter_row first others ""
    cases others with
    | nil =>
      obtain rfl : first = origin := Option.some.inj walk.starts
      exact idle_evaluate (s := .describe first) legal.toWellFormed isLine rendered rfl (.inr known)
    | cons second others =>
      exact idle_evaluate legal.toWellFormed isLine rendered (Expr.ofExpr_row_arrows ..)
        (holds_arrows (linked_of_isChain walk.linked))

theorem idle_text {a : Arrow} (legal : g.Legal) (member : a ∈ g.arrows) :
    (g.evaluate a.text).graph = g ∧ Succeeds (g.evaluate a.text).outcome := by
  have labelled := legal.labelled a member
  exact idle_evaluate legal.toWellFormed (.single labelled.isStatement) labelled.render
    a.ofExpr_expr (holds_statement member)

/-- In a graph that lines have drawn, a route that is found and an arrow that is asked for by its
name are answered by lines that succeed there and change nothing. -/
theorem answers_are_statements (lines : List String) :
    let g := (empty.evaluateEach lines).1
    (∀ (origin destination : String) (report : Report),
      ((Command.single (.findRoute origin destination)).apply g).outcome = .ok report →
      report.ok = true →
        (g.evaluate report.message).graph = g ∧ Succeeds (g.evaluate report.message).outcome) ∧
    ∀ name : String, g.hasName name = true → ∃ report,
      ((Command.single (.describe name)).apply g).outcome = .ok report ∧ report.ok = true ∧
        (g.evaluate report.message).graph = g ∧ Succeeds (g.evaluate report.message).outcome := by
  intro g
  have legal : g.Legal := legal_empty.evaluateEach lines
  constructor
  · intro origin destination report done good
    obtain rfl : (g.findRoute origin destination).report = report := Except.ok.inj done
    obtain ⟨starts, ends, walk⟩ := isSuccess_findRoute_iff.mp good
    obtain ⟨objects, found⟩ := Option.isSome_iff_exists.mp (isSome_route_iff.mpr walk)
    have answer : g.findRoute origin destination = .routeFound objects := by
      simp [findRoute, hasObject_eq_decide, starts, ends, found]
    rw [answer]
    exact idle_route legal starts found
  · intro name known
    obtain ⟨a, found⟩ := Option.isSome_iff_exists.mp known
    have answer : g.describe name = .isArrow a := by simp [describe, found]
    refine ⟨(Notice.isArrow a).report, ?_, rfl, ?_⟩
    · rw [← answer]
      rfl
    · exact idle_text legal (arrow?_some found).1

/-- The first answer draws a chain of arrows, of which one has a name; the second is a definition.
-/
theorem answers_are_statements_chain :
    let g := (empty.evaluateEach ["f: a -> b; b -> c", "d; c -> d; c -> a; f . f"]).1
    ((Command.single (.findRoute "c" "b")).apply g).outcome = .ok (.success "c -> a -> b") ∧
      (g.evaluate "c -> a -> b").graph = g ∧ Succeeds (g.evaluate "c -> a -> b").outcome ∧
      g.hasName "f" = true ∧
      ((Command.single (.describe "f")).apply g).outcome = .ok (.success "f: a -> b") ∧
      (g.evaluate "f: a -> b").graph = g ∧ Succeeds (g.evaluate "f: a -> b").outcome := by
  intro g
  have route : ((Command.single (.findRoute "c" "b")).apply g).outcome =
      .ok (.success "c -> a -> b") := by
    decide +kernel
  have named : g.hasName "f" = true := by decide +kernel
  have shown : ((Command.single (.describe "f")).apply g).outcome = .ok (.success "f: a -> b") := by
    decide +kernel
  have answers := answers_are_statements ["f: a -> b; b -> c", "d; c -> d; c -> a; f . f"]
  obtain ⟨sameRoute, again⟩ := answers.1 "c" "b" _ route rfl
  obtain ⟨report, done, _, same, success⟩ := answers.2 "f" named
  obtain rfl := Except.ok.inj (done.symm.trans shown)
  exact ⟨route, sameRoute, again, named, shown, same, success⟩

end Graph
end ArrowGraph
