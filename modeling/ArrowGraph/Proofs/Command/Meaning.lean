import ArrowGraph.Proofs.Command.Labels
import ArrowGraph.Proofs.Expr.Line

namespace ArrowGraph

/-- What a row of labels makes: the arrows between neighbours, or the composites of neighbours. -/
inductive Making where
  | arrows
  | composites

namespace Making

def operator : Making → Operator
  | arrows => .arrow
  | composites => .compose

/-- Two labels make one arrow or one composite, any others a chain; a name goes to the whole. -/
def statement : Making → Option String → List String → Statement
  | arrows, none, [source, target] => .draw source target
  | arrows, none, objects => .drawChain objects
  | arrows, some name, [source, target] => .drawNamed name source target
  | arrows, some name, objects => .drawNamedChain name objects
  | composites, none, [outer, inner] => .compose outer inner
  | composites, none, names => .composeChain names
  | composites, some name, [outer, inner] => .composeNamed name outer inner
  | composites, some name, names => .composeNamedChain name names

end Making

namespace Statement

/-- What is asked for by labels with operators between them. -/
inductive Asked : List Operator → List String → Statement → Prop where
  | route (origin destination : String) :
      Asked [.route] [origin, destination] (.findRoute origin destination)
  | row (making : Making) {n : Nat} (linked : 1 ≤ n) (labels : List String) :
      Asked (List.replicate n making.operator) labels (making.statement none labels)
  | definition (making : Making) {n : Nat} (linked : 1 ≤ n) (name : String) (labels : List String) :
      Asked (.define :: List.replicate n making.operator) (name :: labels)
        (making.statement (some name) labels)

end Statement

/-- The expression asks for the command. -/
inductive Expr.Means : Expr → Command → Prop where
  | absent : Means .absent (.single .skip)
  | label (name : String) : Means (.label name) (.single (.describe name))
  | statements {es : List Expr} {cs : List Command} (each : List.Forall₂ Means es cs) :
      Means (.statements es) (.batch cs)
  | asked {first : String} {links : List (Operator × String)} {s : Statement}
      (form : Statement.Asked (links.map Prod.fst) (first :: links.map Prod.snd) s) :
      Means (Expr.chain first links) (.single s)

namespace Command

theorem closeLinks_cons (link : Link) (links : List Link) (command : Command) :
    closeLinks (link :: links) command = link.close command >>= closeLinks links := by
  rw [closeLinks, List.foldlM_cons]
  rfl

theorem closeLinks_singleton (link : Link) : closeLinks [link] = link.close := by
  funext command
  rw [closeLinks_cons]
  cases link.close command <;> rfl

theorem ofExprWithin_eq (links : List Link) : ∀ e : Expr,
    ofExprWithin links e = ofExprWithin [] e >>= closeLinks links
  | .absent | .shapeless | .label _ => rfl
  | .operation operator left right => by
    rw [ofExprWithin, ofExprWithin, ofExprWithin_eq [_] right, ofExprWithin_eq (_ :: links) right,
      closeLinks_singleton]
    cases ofExprWithin [] right with
    | error _ => rfl
    | ok command => exact closeLinks_cons _ links command
  | .statements es => by
    rw [ofExprWithin, ofExprWithin]
    cases ofEachExpr es <;> rfl

theorem ofExpr_operation (operator : Operator) (left right : Expr) :
    ofExpr (.operation operator left right) =
      ofExpr right >>= Link.close ⟨operator, left, right⟩ := by
  rw [ofExpr, ofExprWithin, ofExprWithin_eq, closeLinks_singleton, ofExpr]

theorem ofExpr_statements (es : List Expr) :
    ofExpr (.statements es) = .batch <$> ofEachExpr es := by
  rw [ofExpr, ofExprWithin]
  cases ofEachExpr es <;> rfl

theorem ofEachExpr_cons (e : Expr) (es : List Expr) :
    ofEachExpr (e :: es) = do
      let command ← ofExpr e
      let commands ← ofEachExpr es
      return command :: commands := rfl

end Command

namespace Statement

/-- The row of labels in a statement that a name can still be given to. -/
def row? : Statement → Option (Making × List String)
  | draw source target => some (.arrows, [source, target])
  | drawChain objects => some (.arrows, objects)
  | compose outer inner => some (.composites, [outer, inner])
  | composeChain arrows => some (.composites, arrows)
  | _ => none

end Statement

open Command (ofDefinition)

namespace Making

theorem row?_statement (making : Making) (labels : List String) :
    (making.statement none labels).row? = some (making, labels) := by
  cases making <;> exact match labels with
    | [] | [_] | [_, _] | _ :: _ :: _ :: _ => rfl

theorem row?_named (making : Making) (name : String) (labels : List String) :
    (making.statement (some name) labels).row? = none := by
  cases making <;> exact match labels with
    | [] | [_] | [_, _] | _ :: _ :: _ :: _ => rfl

theorem ofDefinition_statement (making : Making) (name : String) (labels : List String)
    (right : Expr) :
    ofDefinition (.label name) right (.single (making.statement none labels)) =
      .ok (.single (making.statement (some name) labels)) := by
  cases making <;> exact match labels with
    | [] | [_] | [_, _] | _ :: _ :: _ :: _ => rfl

theorem close_pair (making : Making) (first last : String) (command : Command) :
    Command.Link.close ⟨making.operator, .label first, .label last⟩ command =
      .ok (.single (making.statement none [first, last])) := by
  cases making <;> rfl

theorem close_longer (making : Making) (first : String) {labels : List String}
    (several : 2 ≤ labels.length) {right : Expr} (noLabel : ∀ name, right ≠ .label name) :
    Command.Link.close ⟨making.operator, .label first, right⟩
      (.single (making.statement none labels)) =
        .ok (.single (making.statement none (first :: labels))) := by
  obtain ⟨a, others, rfl⟩ : ∃ a others, labels = a :: others :=
    List.exists_cons_of_length_pos (by omega)
  obtain ⟨b, rest, rfl⟩ : ∃ b rest, others = b :: rest :=
    List.exists_cons_of_length_pos (by simp only [List.length_cons] at several; omega)
  cases right with
  | label name => exact absurd rfl (noLabel name)
  | absent | shapeless | operation | statements => cases making <;> cases rest <;> rfl

theorem row_of_close {making : Making} {left right : Expr} {command c : Command}
    (closed : Command.Link.close ⟨making.operator, left, right⟩ command = .ok c) :
    ∃ first, left = .label first ∧ ((∃ last, right = .label last) ∨
      (∀ name, right ≠ .label name) ∧
        ∃ s labels, command = .single s ∧ s.row? = some (making, labels)) := by
  cases making with
  | arrows | composites =>
    simp only [operator, Command.Link.close, Command.ofArrow, Command.ofComposition] at closed
    split at closed
    · rename_i first
      split at closed
      · exact ⟨first, rfl, .inl ⟨_, rfl⟩⟩
      · rename_i noLabel
        split at closed
        · exact ⟨first, rfl, .inr ⟨noLabel, _, _, rfl, rfl⟩⟩
        · exact ⟨first, rfl, .inr ⟨noLabel, _, _, rfl, rfl⟩⟩
        · cases closed
    · cases closed

end Making

theorem row_of_ofDefinition {left right : Expr} {command c : Command}
    (closed : ofDefinition left right command = .ok c) :
    ∃ name making labels s, left = .label name ∧ command = .single s ∧
      s.row? = some (making, labels) := by
  unfold ofDefinition at closed
  split at closed
  · split at closed
    · exact ⟨_, _, _, _, rfl, rfl, rfl⟩
    · exact ⟨_, _, _, _, rfl, rfl, rfl⟩
    · exact ⟨_, _, _, _, rfl, rfl, rfl⟩
    · exact ⟨_, _, _, _, rfl, rfl, rfl⟩
    · cases closed
  · cases closed

namespace Expr

open Statement (Asked)

theorem Means.row {right : Expr} {s : Statement} {making : Making} {labels : List String}
    (means : right.Means (.single s)) (row : s.row? = some (making, labels)) :
    ∃ first links n, right = chain first links ∧ labels = first :: links.map Prod.snd ∧
      links.map Prod.fst = List.replicate n making.operator ∧ 1 ≤ n ∧
      s = making.statement none labels := by
  cases means with
  | absent => cases row
  | label => cases row
  | @asked first links _ form =>
    generalize shape : links.map Prod.fst = operators at form
    generalize words : first :: links.map Prod.snd = objects at form
    cases form with
    | route => cases row
    | definition =>
      rw [Making.row?_named] at row
      cases row
    | row _ linked =>
      rw [Making.row?_statement] at row
      cases row
      exact ⟨first, links, _, rfl, words.symm, shape, linked, rfl⟩

theorem means_of_close_row (making : Making) {left right : Expr} {command c : Command}
    (means : right.Means command)
    (closed : Command.Link.close ⟨making.operator, left, right⟩ command = .ok c) :
    (operation making.operator left right).Means c := by
  obtain ⟨first, rfl, ⟨last, rfl⟩ | ⟨noLabel, s, labels, rfl, row⟩⟩ := Making.row_of_close closed
  · rw [making.close_pair] at closed
    obtain rfl := Except.ok.inj closed
    have form : Asked [making.operator] [first, last] (making.statement none [first, last]) :=
      .row making (Nat.le_refl 1) _
    change (chain first [(making.operator, last)]).Means _
    exact .asked form
  · obtain ⟨next, links, n, rfl, rfl, shape, linked, rfl⟩ := means.row row
    have several : 2 ≤ (next :: links.map Prod.snd).length := by
      have length := congrArg List.length shape
      simp only [List.length_map, List.length_replicate] at length
      simp only [List.length_cons, List.length_map]
      omega
    rw [making.close_longer first several noLabel] at closed
    obtain rfl := Except.ok.inj closed
    have form := Asked.row making (Nat.le_succ_of_le linked) (first :: next :: links.map Prod.snd)
    rw [List.replicate_succ, ← shape] at form
    change (chain first ((making.operator, next) :: links)).Means _
    exact .asked form

theorem means_of_close {operator : Operator} {left right : Expr} {command c : Command}
    (means : right.Means command)
    (closed : Command.Link.close ⟨operator, left, right⟩ command = .ok c) :
    (operation operator left right).Means c := by
  cases operator with
  | arrow => exact means_of_close_row .arrows means closed
  | compose => exact means_of_close_row .composites means closed
  | other => cases closed
  | route =>
    simp only [Command.Link.close, Command.ofRoute] at closed
    split at closed
    · rename_i origin destination
      obtain rfl := Except.ok.inj closed
      change (chain origin [(.route, destination)]).Means _
      exact .asked (.route origin destination)
    · cases closed
  | define =>
    change ofDefinition left right command = .ok c at closed
    obtain ⟨name, making, labels, s, rfl, rfl, row⟩ := row_of_ofDefinition closed
    obtain ⟨first, links, n, rfl, rfl, shape, linked, rfl⟩ := means.row row
    rw [making.ofDefinition_statement] at closed
    obtain rfl := Except.ok.inj closed
    have form := Asked.definition making linked name (first :: links.map Prod.snd)
    rw [← shape] at form
    change (chain name ((.define, first) :: links)).Means _
    exact .asked form

mutual

theorem means_of_ofExpr : ∀ {e : Expr} {c : Command}, Command.ofExpr e = .ok c → e.Means c
  | .absent, _, accepted => by
    cases accepted
    exact .absent
  | .shapeless, _, accepted => by cases accepted
  | .label name, _, accepted => by
    cases accepted
    exact .label name
  | .operation operator left right, c, accepted => by
    rw [Command.ofExpr_operation] at accepted
    obtain ⟨command, inner, closed⟩ := bind_eq_ok_iff.mp accepted
    exact means_of_close (means_of_ofExpr inner) closed
  | .statements es, c, accepted => by
    rw [Command.ofExpr_statements] at accepted
    obtain ⟨commands, each, rfl⟩ := map_eq_ok_iff.mp accepted
    exact .statements (means_of_ofEachExpr each)

theorem means_of_ofEachExpr : ∀ {es : List Expr} {cs : List Command},
    Command.ofEachExpr es = .ok cs → List.Forall₂ Means es cs
  | [], _, accepted => by
    cases accepted
    exact .nil
  | e :: es, cs, accepted => by
    rw [Command.ofEachExpr_cons] at accepted
    obtain ⟨command, first, accepted⟩ := bind_eq_ok_iff.mp accepted
    obtain ⟨commands, others, same⟩ := bind_eq_ok_iff.mp accepted
    cases same
    exact .cons (means_of_ofExpr first) (means_of_ofEachExpr others)

end

theorem ofExpr_row (making : Making) (first : String) {links : List (Operator × String)} {n : Nat}
    (linked : 1 ≤ n) (shape : links.map Prod.fst = List.replicate n making.operator) :
    Command.ofExpr (chain first links) =
      .ok (.single (making.statement none (first :: links.map Prod.snd))) := by
  induction links generalizing first n with
  | nil =>
    obtain ⟨m, rfl⟩ := Nat.exists_eq_add_of_le' linked
    cases shape
  | cons link links ih =>
    obtain ⟨operator, next⟩ := link
    obtain ⟨m, rfl⟩ := Nat.exists_eq_add_of_le' linked
    obtain ⟨rfl, others⟩ := List.cons.inj shape
    rw [chain, Command.ofExpr_operation]
    cases links with
    | nil => exact making.close_pair first next _
    | cons link links =>
      have more : 1 ≤ m := by
        have length := congrArg List.length others
        simp at length
        omega
      rw [ih next more others]
      exact making.close_longer first (by simp) fun _ same => by cases same

theorem ofExpr_asked {first : String} {links : List (Operator × String)} {s : Statement}
    (form : Asked (links.map Prod.fst) (first :: links.map Prod.snd) s) :
    Command.ofExpr (chain first links) = .ok (.single s) := by
  generalize shape : links.map Prod.fst = operators at form
  generalize words : first :: links.map Prod.snd = labels at form
  cases form with
  | route origin destination =>
    obtain ⟨⟨_, _⟩, others, rfl, rfl, nil⟩ := List.map_eq_cons_iff.mp shape
    obtain rfl := List.map_eq_nil_iff.mp nil
    cases words
    rfl
  | row making linked =>
    rw [← words]
    exact ofExpr_row making first linked shape
  | definition making linked name labels =>
    obtain ⟨⟨_, next⟩, others, rfl, rfl, rest⟩ := List.map_eq_cons_iff.mp shape
    obtain ⟨rfl, rfl⟩ := List.cons.inj words
    rw [chain, Command.ofExpr_operation, ofExpr_row making next linked rest]
    exact making.ofDefinition_statement first _ _

mutual

theorem ofExpr_of_means {e : Expr} {c : Command} : e.Means c → Command.ofExpr e = .ok c
  | .absent | .label _ => rfl
  | .asked form => ofExpr_asked form
  | .statements each => by
    rw [Command.ofExpr_statements, ofEachExpr_of_means each]
    rfl

theorem ofEachExpr_of_means {es : List Expr} {cs : List Command} :
    List.Forall₂ Means es cs → Command.ofEachExpr es = .ok cs
  | .nil => rfl
  | .cons first others => by
    rw [Command.ofEachExpr_cons, ofExpr_of_means first, ofEachExpr_of_means others]
    rfl

end

end Expr

end ArrowGraph
