import ArrowGraph.Command.OfExpr
import ArrowGraph.Proofs.Command.Strokes
import ArrowGraph.Proofs.Expr.Chain

namespace ArrowGraph

def Statement.labels : Statement → List String
  | skip | unspecified => []
  | describe name => [name]
  | findRoute origin destination => [origin, destination]
  | draw source target => [source, target]
  | drawNamed name source target => [name, source, target]
  | compose outer inner => [outer, inner]
  | composeNamed name outer inner => [name, outer, inner]
  | drawChain objects => objects
  | drawNamedChain name objects => name :: objects
  | composeChain arrows => arrows
  | composeNamedChain name arrows => name :: arrows

theorem Statement.givenNames_subset (s : Statement) : s.givenNames ⊆ s.labels := by
  cases s <;> simp [givenNames, labels]

theorem Statement.objects_subset (s : Statement) : s.objects ⊆ s.labels := by
  cases s <;> simp [objects, labels]

namespace Command

def labels (c : Command) : List String :=
  c.statements.flatMap Statement.labels

def givenNames (c : Command) : List String :=
  c.statements.flatMap Statement.givenNames

@[simp] theorem labels_single (s : Statement) : (single s).labels = s.labels := by
  simp [labels, statements]

theorem labels_batch_cons (c : Command) (cs : List Command) :
    (batch (c :: cs)).labels = c.labels ++ (batch cs).labels := by
  simp [labels, statements, statementsEach]

def Link.labels (link : Link) : List String :=
  link.left.labels ++ link.right.labels

theorem labels_close {link : Link} {command c : Command} (closed : link.close command = .ok c) :
    c.labels ⊆ link.labels ++ command.labels := by
  obtain ⟨operator, left, right⟩ := link
  cases operator with
  | other => cases closed
  | define =>
    simp only [Link.close, ofDefinition] at closed
    split at closed
    · split at closed <;> cases closed <;> simp [Link.labels, Statement.labels, Expr.labels]
    · cases closed
  | arrow =>
    simp only [Link.close, ofArrow] at closed
    split at closed
    · split at closed
      · cases closed
        simp [Link.labels, Statement.labels, Expr.labels]
      · split at closed <;> cases closed <;> simp [Link.labels, Statement.labels, Expr.labels]
    · cases closed
  | compose =>
    simp only [Link.close, ofComposition] at closed
    split at closed
    · split at closed
      · cases closed
        simp [Link.labels, Statement.labels, Expr.labels]
      · split at closed <;> cases closed <;> simp [Link.labels, Statement.labels, Expr.labels]
    · cases closed
  | route =>
    simp only [Link.close, ofRoute] at closed
    split at closed
    · cases closed
      simp [Link.labels, Statement.labels, Expr.labels]
    · cases closed

theorem labels_closeLinks {links : List Link} {command c : Command}
    (closed : closeLinks links command = .ok c) :
    c.labels ⊆ command.labels ++ links.flatMap Link.labels := by
  induction links generalizing command with
  | nil =>
    cases closed
    simp
  | cons link links ih =>
    rw [closeLinks, List.foldlM_cons] at closed
    obtain ⟨inner, first, closed⟩ := bind_eq_ok_iff.mp closed
    intro word member
    have known := List.mem_append.mp (ih closed member)
    have inside := @labels_close _ _ _ first word
    simp only [List.flatMap_cons, List.mem_append] at known inside ⊢
    tauto

mutual

theorem labels_ofExprWithin {links : List Link} {c : Command} : ∀ {e : Expr},
    ofExprWithin links e = .ok c → c.labels ⊆ e.labels ++ links.flatMap Link.labels
  | .absent, accepted => by
    rw [ofExprWithin] at accepted
    exact labels_closeLinks accepted
  | .shapeless, accepted => by
    rw [ofExprWithin] at accepted
    cases accepted
  | .label name, accepted => by
    rw [ofExprWithin] at accepted
    simpa [Statement.labels, Expr.labels] using labels_closeLinks accepted
  | .operation operator left right, accepted => by
    rw [ofExprWithin] at accepted
    intro word member
    have known := labels_ofExprWithin accepted member
    simp only [List.flatMap_cons, Link.labels, Expr.labels, List.mem_append] at known ⊢
    tauto
  | .statements es, accepted => by
    rw [ofExprWithin] at accepted
    obtain ⟨commands, each, closed⟩ := bind_eq_ok_iff.mp accepted
    intro word member
    have known := List.mem_append.mp (labels_closeLinks closed member)
    exact List.mem_append.mpr (known.imp_left fun inside => labels_ofEachExpr each inside)

theorem labels_ofEachExpr : ∀ {es : List Expr} {cs : List Command},
    ofEachExpr es = .ok cs → (batch cs).labels ⊆ Expr.labelsEach es
  | [], _, accepted => by
    cases accepted
    simp [labels, statements, statementsEach]
  | e :: es, cs, accepted => by
    rw [ofEachExpr] at accepted
    obtain ⟨c, first, accepted⟩ := bind_eq_ok_iff.mp accepted
    obtain ⟨others, each, same⟩ := bind_eq_ok_iff.mp accepted
    cases same
    rw [labels_batch_cons, Expr.labelsEach]
    have here : c.labels ⊆ e.labels := by simpa using labels_ofExprWithin first
    exact List.append_subset.mpr
      ⟨fun _ member => List.mem_append_left _ (here member),
        fun _ member => List.mem_append_right _ (labels_ofEachExpr each member)⟩

end

theorem labels_ofExpr {e : Expr} {c : Command} (accepted : ofExpr e = .ok c) :
    c.labels ⊆ e.labels := by
  simpa using labels_ofExprWithin accepted

end Command
end ArrowGraph
