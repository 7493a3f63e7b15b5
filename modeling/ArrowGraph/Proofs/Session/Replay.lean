import ArrowGraph.Proofs.Session.Rendering
import ArrowGraph.Proofs.Session.Words

namespace ArrowGraph

open Statement (performEach)

namespace Arrow

def statement (a : Arrow) : Statement :=
  match a.name with
  | none => .draw a.source a.target
  | some name => .drawNamed name a.source a.target

def expr (a : Arrow) : Expr :=
  let edge := Expr.operation .arrow (.label a.source) (.label a.target)
  match a.name with
  | none => edge
  | some name => .operation .define (.label name) edge

structure Labelled (a : Arrow) : Prop where
  source : IsLabel a.source
  target : IsLabel a.target
  name : ∀ name, a.name = some name → IsLabel name

variable {a : Arrow}

theorem perform_statement (a : Arrow) (g : Graph) :
    a.statement.perform g = ⟨(g.attempt a).1, .ok (g.attempt a).2.report⟩ := by
  obtain ⟨source, target, name⟩ := a
  cases name <;> rfl

theorem ofExpr_expr (a : Arrow) : Command.ofExpr a.expr = .ok (.single a.statement) := by
  obtain ⟨source, target, name⟩ := a
  cases name <;> rfl

theorem Labelled.isStatement (labelled : a.Labelled) : a.expr.IsStatement := by
  obtain ⟨source, target, name⟩ := a
  have edge : (Expr.operation .arrow (.label source) (.label target)).IsStatement :=
    .operation rfl labelled.source (.label labelled.target)
  cases name with
  | none => exact edge
  | some name => exact .operation rfl (labelled.name name rfl) edge

theorem text_of_none (source target : String) :
    text ⟨source, target, none⟩ = source ++ " -> " ++ target := rfl

theorem text_of_some {name : String} (shows : name ≠ "") (source target : String) :
    text ⟨source, target, some name⟩ = name ++ ": " ++ (source ++ " -> " ++ target) := by
  have given : givenName ⟨source, target, some name⟩ = some name := by
    simp [givenName, Option.filter, shows]
  rw [text, given]

theorem Labelled.render (labelled : a.Labelled) : a.expr.render? = some a.text := by
  obtain ⟨source, target, name⟩ := a
  cases name with
  | none =>
    simp only [expr, text_of_none, Expr.render?, Expr.renderAfter?, Operator.sign?,
      Option.bind_eq_bind, Option.bind_some, Option.some.injEq]
    apply String.toList_injective
    simp
  | some name =>
    have shows : name ≠ "" := by
      rintro rfl
      exact (labelled.name "" rfl).1 rfl
    simp only [expr, text_of_some shows, Expr.render?, Expr.renderAfter?, Operator.sign?,
      Option.bind_eq_bind, Option.bind_some, Option.some.injEq]
    apply String.toList_injective
    simp

/-- Evaluating the text of an arrow is one attempt to draw the arrow. -/
theorem Labelled.evaluate (labelled : a.Labelled) (g : Graph) :
    (g.evaluate a.text).graph = (g.attempt a).1 ∧
      (g.evaluate a.text).outcome = .ok (g.attempt a).2.report := by
  have done := (Expr.IsLine.single labelled.isStatement).evaluate_text labelled.render g
  rw [Expr.effect, ofExpr_expr] at done
  simp only [Command.apply, perform_statement] at done
  exact Prod.mk.inj done

end Arrow

theorem Command.ofEachExpr_map (as : List Arrow) :
    ofEachExpr (as.map Arrow.expr) = .ok (as.map fun a => .single a.statement) := by
  induction as with
  | nil => rfl
  | cons a as ih =>
    have first : ofExprWithin [] a.expr = .ok (.single a.statement) := a.ofExpr_expr
    rw [List.map_cons, ofEachExpr, first, ih]
    rfl

theorem Command.statementsEach_map (as : List Arrow) :
    statementsEach (as.map fun a => .single a.statement) = as.map Arrow.statement := by
  induction as with
  | nil => rfl
  | cons a as ih => rw [List.map_cons, statementsEach, statements, ih, List.map_cons]; rfl

theorem Expr.renderEach_map {as : List Arrow} (labelled : ∀ a ∈ as, a.Labelled) :
    renderEach? (as.map Arrow.expr) = some (as.map Arrow.text) := by
  induction as with
  | nil => rfl
  | cons a as ih =>
    have first : renderAfter? "" a.expr = some a.text :=
      (labelled a (List.mem_cons_self ..)).render
    have others := ih fun b hb => labelled b (List.mem_cons_of_mem _ hb)
    simp [renderEach?, first, others]

namespace Graph

def evaluateEach (g : Graph) : List String → Graph × List (Except Failure Report)
  | [] => (g, [])
  | line :: lines =>
    let first := g.evaluate line
    let others := evaluateEach first.graph lines
    (others.1, first.outcome :: others.2)

/-- The graphs that lines can draw. -/
structure Legal (g : Graph) : Prop extends WellFormed g where
  labels : ∀ word ∈ g.words, IsLabel word

variable {g : Graph}

theorem legal_empty : empty.Legal :=
  ⟨wellFormed_empty, nofun⟩

theorem Legal.evaluate (legal : g.Legal) (line : String) : (g.evaluate line).graph.Legal := by
  refine ⟨legal.toWellFormed.evaluate line, ?_⟩
  intro word member
  rcases List.mem_append.mp (words_evaluate g line member) with old | new
  · exact legal.labels word old
  · exact Token.isLabel_of_mem_labelsOf new

theorem Legal.evaluateEach (legal : g.Legal) (lines : List String) :
    (g.evaluateEach lines).1.Legal := by
  induction lines generalizing g with
  | nil => exact legal
  | cons line lines ih => exact ih (legal.evaluate line)

theorem Legal.labelled (legal : g.Legal) : ∀ a ∈ g.arrows, a.Labelled := by
  intro a member
  have isEnd (object : String) (touched : object = a.source ∨ object = a.target) :
      IsLabel object :=
    legal.labels object (List.mem_append_right _ (mem_ends.mpr ⟨a, member, touched⟩))
  refine ⟨isEnd _ (.inl rfl), isEnd _ (.inr rfl), fun name named => ?_⟩
  exact legal.labels name (List.mem_append_left _ (mem_names.mpr ⟨a, member, named⟩))

/-- Onto the arrows before it, each arrow of a well-formed graph is drawn without more ado. -/
theorem WellFormed.attempt_next {before after : List Arrow} {a : Arrow}
    (legal : (Graph.mk (before ++ a :: after)).WellFormed) :
    (Graph.mk before).attempt a = (⟨before ++ [a]⟩, .drew a) := by
  have fewer : (before ++ [a]).Sublist (before ++ a :: after) := by simp
  have upTo : ((Graph.mk before).add a).WellFormed := legal.sublist fewer
  obtain ⟨free, absent⟩ := free_of_wellFormed_add upTo
  exact attempt_free free absent

theorem evaluateEach_texts (before : List Arrow) {after : List Arrow} (labelled : ∀ a ∈ after, a.Labelled)
    (legal : (Graph.mk (before ++ after)).WellFormed) :
    (Graph.mk before).evaluateEach (after.map Arrow.text) =
      (⟨before ++ after⟩, after.map fun a => .ok (Notice.drew a).report) := by
  induction after generalizing before with
  | nil => simp [Graph.evaluateEach]
  | cons a after ih =>
    have drawn := legal.attempt_next
    obtain ⟨graph, outcome⟩ := (labelled a (List.mem_cons_self ..)).evaluate ⟨before⟩
    rw [drawn] at graph outcome
    have rest := ih (before ++ [a]) (fun b hb => labelled b (List.mem_cons_of_mem _ hb))
      (by simpa using legal)
    simp [Graph.evaluateEach, graph, outcome, rest]

theorem performEach_statements (before : List Arrow) {after : List Arrow}
    (legal : (Graph.mk (before ++ after)).WellFormed) :
    performEach ⟨before⟩ (after.map Arrow.statement) = (⟨before ++ after⟩, .ok true) := by
  induction after generalizing before with
  | nil => simp [performEach]
  | cons a after ih =>
    have first : a.statement.perform ⟨before⟩ = ⟨⟨before ++ [a]⟩, .ok (Notice.drew a).report⟩ := by
      rw [a.perform_statement, legal.attempt_next]
    have rest := ih (before ++ [a]) (by simpa using legal)
    rw [List.map_cons, performEach_ok (congrArg Effect.outcome first), first, rest,
      List.append_assoc, List.singleton_append]
    rfl

theorem evaluate_joined {as : List Arrow} (nonempty : as ≠ []) (labelled : ∀ a ∈ as, a.Labelled)
    (g : Graph) :
    ((g.evaluate ("; ".intercalate (as.map Arrow.text))).graph,
        (g.evaluate ("; ".intercalate (as.map Arrow.text))).outcome) =
      (Expr.statements (as.map Arrow.expr)).effect g := by
  have isLine : (Expr.statements (as.map Arrow.expr)).IsLine := by
    refine .list (by simpa using nonempty) ?_
    intro e member
    obtain ⟨a, inside, rfl⟩ := List.mem_map.mp member
    exact (labelled a inside).isStatement
  refine isLine.evaluate_text ?_ g
  simp [Expr.render?, Expr.renderAfter?, Expr.renderEach_map labelled]

theorem Legal.redrawn_by_texts (legal : g.Legal) :
    (empty.evaluateEach (g.arrows.map Arrow.text)).1 = g ∧
      ∀ outcome ∈ (empty.evaluateEach (g.arrows.map Arrow.text)).2, Succeeds outcome := by
  have redrawn := evaluateEach_texts [] legal.labelled legal.toWellFormed
  rw [empty, redrawn]
  refine ⟨rfl, ?_⟩
  intro outcome member
  obtain ⟨a, _, rfl⟩ := List.mem_map.mp member
  exact ⟨_, rfl, rfl⟩

theorem Legal.redrawn_by_line (legal : g.Legal) (nonempty : g.arrows ≠ []) :
    (empty.evaluate ("; ".intercalate (g.arrows.map Arrow.text))).graph = g ∧
      Succeeds (empty.evaluate ("; ".intercalate (g.arrows.map Arrow.text))).outcome := by
  let command : Command := .batch (g.arrows.map fun a => .single a.statement)
  have lowered : Command.ofExpr (.statements (g.arrows.map Arrow.expr)) = .ok command := by
    rw [Command.ofExpr, Command.ofExprWithin, Command.ofEachExpr_map]
    rfl
  have flat : command.statements = g.arrows.map Arrow.statement :=
    Command.statementsEach_map g.arrows
  have redrawn : performEach empty command.statements = (g, .ok true) := by
    rw [flat]
    exact performEach_statements [] legal.toWellFormed
  have line := evaluate_joined nonempty legal.labelled empty
  rw [Expr.effect, lowered] at line
  obtain ⟨graph, outcome⟩ := Prod.mk.inj line
  obtain ⟨report, done, good⟩ := Command.succeeds_apply_iff.mpr (congrArg Prod.snd redrawn)
  constructor
  · rw [graph, Command.apply_graph, redrawn]
  · exact ⟨report, by rw [outcome, done]; rfl, good⟩

/-- The texts of the arrows of a graph that lines can draw are a record from which it is drawn
again, line by line or as one line; and lines draw no other graphs. -/
theorem redrawn_by_record :
    (∀ lines : List String, (empty.evaluateEach lines).1.Legal) ∧
    ∀ g : Graph, g.Legal →
      ((empty.evaluateEach (g.arrows.map Arrow.text)).1 = g ∧
        ∀ outcome ∈ (empty.evaluateEach (g.arrows.map Arrow.text)).2, Succeeds outcome) ∧
      (g.arrows ≠ [] →
        (empty.evaluate ("; ".intercalate (g.arrows.map Arrow.text))).graph = g ∧
          Succeeds (empty.evaluate ("; ".intercalate (g.arrows.map Arrow.text))).outcome) := by
  refine ⟨legal_empty.evaluateEach, fun g legal => ⟨legal.redrawn_by_texts, ?_⟩⟩
  exact legal.redrawn_by_line

def triangle : Graph :=
  ⟨[⟨"a", "b", some "f"⟩, ⟨"b", "c", some "g'"⟩, ⟨"a", "c", none⟩]⟩

theorem redrawn_by_record_triangle :
    triangle.Legal ∧
    (empty.evaluateEach ["f: a -> b", "g': b -> c", "a -> c"]).1 = triangle ∧
    (empty.evaluate "f: a -> b; g': b -> c; a -> c").graph = triangle ∧
    Succeeds (empty.evaluate "f: a -> b; g': b -> c; a -> c").outcome := by
  have legal : triangle.Legal := ⟨⟨by decide, by decide, by decide⟩, by decide⟩
  obtain ⟨⟨apart, _⟩, joined⟩ := redrawn_by_record.2 triangle legal
  have texts : triangle.arrows.map Arrow.text = ["f: a -> b", "g': b -> c", "a -> c"] := by
    decide +kernel
  have line : "; ".intercalate ["f: a -> b", "g': b -> c", "a -> c"] =
      "f: a -> b; g': b -> c; a -> c" := by
    decide +kernel
  rw [texts] at apart joined
  rw [line] at joined
  exact ⟨legal, apart, joined (by decide)⟩

end Graph
end ArrowGraph
