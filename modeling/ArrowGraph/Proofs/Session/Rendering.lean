import ArrowGraph.Proofs.Expr.Written
import ArrowGraph.Proofs.Report
import ArrowGraph.Session

namespace ArrowGraph

open Token (scan)

namespace Expr

theorem isLine_of_scan {line : String} {tokens : List Token} {tree : Expr}
    (scanned : scan line = .ok tokens) (accepted : (read tokens).result = .ok tree) : IsLine tree := by
  refine isLine_of_ofTokens (fun t member => ?_) accepted
  exact Token.spells_of_scanFrom scanned t (List.mem_of_mem_filter member)

theorem IsLine.reread {e : Expr} {text : String} (isLine : IsLine e)
    (rendered : e.render? = some text) :
    ∃ tokens, scan text = .ok tokens ∧ (Expr.read tokens).result = .ok e.unlisted := by
  obtain rfl := Option.some.inj (isLine.render.symm.trans rendered)
  refine ⟨Lexeme.place 1 e.line, ?_, isLine.read (Lexeme.map_lexeme_place 1 e.line)⟩
  rw [scan, String.toList_ofList]
  exact Lexeme.scanFrom_written 1 isLine.spelled isLine.apart

theorem IsLine.render_unlisted {e : Expr} (isLine : IsLine e) : e.unlisted.render? = e.render? := by
  cases isLine with
  | single statement => rw [statement.unlisted_eq]
  | @list es nonempty each =>
    obtain ⟨e, others, rfl⟩ := List.exists_cons_of_ne_nil nonempty
    cases others with
    | nil =>
      have statement := each e (List.mem_cons_self ..)
      rw [(IsLine.list nonempty each).render, line, joined_singleton, ← statement.line_eq]
      exact (IsLine.single statement).render
    | cons f es => rfl

/-- What an expression does to a graph, and what it comes to. -/
def effect (g : Graph) (e : Expr) : Graph × Except Failure Report :=
  match Command.ofExpr e with
  | .error error => (g, .error (.meaning error))
  | .ok command => ((command.apply g).graph, (command.apply g).outcome.mapError .apply)

theorem ofExpr_singleton (e : Expr) :
    Command.ofExpr (.statements [e]) = (fun c => .batch [c]) <$> Command.ofExpr e := by
  simp only [Command.ofExpr, Command.ofExprWithin, Command.ofEachExpr]
  cases Command.ofExprWithin [] e <;> rfl

end Expr

theorem Command.apply_singleton (g : Graph) (c : Command) :
    ((Command.batch [c]).apply g).graph = (c.apply g).graph ∧
      ((Command.batch [c]).apply g).outcome = (c.apply g).outcome := by
  simp only [Command.apply, Command.applyEach]
  cases (c.apply g).outcome with
  | error e => exact ⟨rfl, rfl⟩
  | ok report => exact ⟨rfl, congrArg Except.ok (Report.merge_singleton report)⟩

namespace Expr

theorem effect_unlisted (g : Graph) (e : Expr) : e.unlisted.effect g = e.effect g := by
  unfold unlisted
  split
  · rename_i e
    simp only [effect, ofExpr_singleton]
    cases Command.ofExpr e with
    | error => rfl
    | ok c =>
      obtain ⟨graph, outcome⟩ := Command.apply_singleton g c
      simp [Functor.map, Except.map, graph, outcome]
  · rfl

theorem evaluate_eq_effect {line : String} {tokens : List Token} {tree : Expr}
    (scanned : scan line = .ok tokens) (accepted : (read tokens).result = .ok tree) (g : Graph) :
    ((g.evaluate line).graph, (g.evaluate line).outcome) = tree.effect g := by
  simp only [Graph.evaluate, Command.ofLine, scanned, accepted, effect]
  cases Command.ofExpr tree <;> rfl

/-- The text of a line's expression does what the expression says. -/
theorem IsLine.evaluate_text {e : Expr} {text : String} (isLine : IsLine e)
    (rendered : e.render? = some text) (g : Graph) :
    ((g.evaluate text).graph, (g.evaluate text).outcome) = e.effect g := by
  obtain ⟨tokens, scanned, accepted⟩ := isLine.reread rendered
  rw [evaluate_eq_effect scanned accepted, effect_unlisted]

/-- The text of what a line is read as can be read in its turn, is written the same way again, and
has the same effect on every graph. -/
theorem rendering_keeps_meaning {line : String} {tokens : List Token} {tree : Expr}
    (scanned : scan line = .ok tokens) (accepted : (read tokens).result = .ok tree) :
    ∃ text tokens', tree.render? = some text ∧
      scan text = .ok tokens' ∧ (read tokens').result = .ok tree.unlisted ∧
      tree.unlisted.render? = some text ∧
      ∀ g : Graph, (g.evaluate text).graph = (g.evaluate line).graph ∧
        (g.evaluate text).outcome = (g.evaluate line).outcome := by
  have isLine := isLine_of_scan scanned accepted
  have rendered := isLine.render
  obtain ⟨tokens', rescanned, reread⟩ := isLine.reread rendered
  refine ⟨_, tokens', rendered, rescanned, reread, isLine.render_unlisted.trans rendered, ?_⟩
  intro g
  have same := (isLine.evaluate_text rendered g).trans (evaluate_eq_effect scanned accepted g).symm
  exact Prod.mk.inj same

/-- The two lines differ, and so do their expressions: the semicolon is lost. -/
theorem rendering_keeps_meaning_single :
    ∃ text tokens', (Expr.statements [.operation .compose (.label "g") (.label "f")]).render? =
        some text ∧
      scan text = .ok tokens' ∧
      (read tokens').result = .ok (.operation .compose (.label "g") (.label "f")) ∧
      (Expr.operation .compose (.label "g") (.label "f")).render? = some text ∧
      ∀ g : Graph, (g.evaluate text).graph = (g.evaluate "g .f;").graph ∧
        (g.evaluate text).outcome = (g.evaluate "g .f;").outcome := by
  have scanned : scan "g .f;" = .ok [⟨.label, "g", 1⟩, ⟨.blank, " ", 2⟩, ⟨.dot, ".", 3⟩,
      ⟨.label, "f", 4⟩, ⟨.semicolon, ";", 5⟩] := by
    decide +kernel
  have accepted : (read [⟨.label, "g", 1⟩, ⟨.blank, " ", 2⟩, ⟨.dot, ".", 3⟩, ⟨.label, "f", 4⟩,
      ⟨.semicolon, ";", 5⟩]).result =
        .ok (.statements [.operation .compose (.label "g") (.label "f")]) := by
    decide +kernel
  exact rendering_keeps_meaning scanned accepted

end Expr
end ArrowGraph
