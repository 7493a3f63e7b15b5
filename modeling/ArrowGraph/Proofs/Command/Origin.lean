import ArrowGraph.Proofs.Command.Meaning

namespace ArrowGraph

def Expr.row (operator : Operator) : List String → Expr
  | [] => .absent
  | first :: others => chain first (others.map fun next => (operator, next))

def Statement.expr : Statement → Expr
  | skip => .absent
  | unspecified => .shapeless
  | describe name => .label name
  | findRoute origin destination => .operation .route (.label origin) (.label destination)
  | draw source target => .row .arrow [source, target]
  | drawNamed name source target => .operation .define (.label name) (.row .arrow [source, target])
  | compose outer inner => .row .compose [outer, inner]
  | composeNamed name outer inner =>
    .operation .define (.label name) (.row .compose [outer, inner])
  | drawChain objects => .row .arrow objects
  | drawNamedChain name objects => .operation .define (.label name) (.row .arrow objects)
  | composeChain arrows => .row .compose arrows
  | composeNamedChain name arrows => .operation .define (.label name) (.row .compose arrows)

namespace Command

mutual

def expr : Command → Expr
  | single s => s.expr
  | batch cs => .statements (exprEach cs)

def exprEach : List Command → List Expr
  | [] => []
  | c :: cs => expr c :: exprEach cs

end

end Command

namespace Making

theorem expr_statement (making : Making) (labels : List String) :
    (making.statement none labels).expr = .row making.operator labels := by
  cases making <;> exact match labels with
    | [] | [_] | [_, _] | _ :: _ :: _ :: _ => rfl

theorem expr_named (making : Making) (name : String) (labels : List String) :
    (making.statement (some name) labels).expr =
      .operation .define (.label name) (.row making.operator labels) := by
  cases making <;> exact match labels with
    | [] | [_] | [_, _] | _ :: _ :: _ :: _ => rfl

theorem labels_statement (making : Making) (labels : List String) :
    (making.statement none labels).labels = labels := by
  cases making <;> exact match labels with
    | [] | [_] | [_, _] | _ :: _ :: _ :: _ => rfl

theorem labels_named (making : Making) (name : String) (labels : List String) :
    (making.statement (some name) labels).labels = name :: labels := by
  cases making <;> exact match labels with
    | [] | [_] | [_, _] | _ :: _ :: _ :: _ => rfl

theorem signed (making : Making) : making.operator.sign?.isSome = true := by
  cases making <;> rfl

end Making

namespace Statement

theorem Asked.labels {operators : List Operator} {words : List String} {s : Statement}
    (form : Asked operators words s) : s.labels = words := by
  cases form with
  | route => rfl
  | row making => exact making.labels_statement words
  | definition making _ name words => exact making.labels_named name words

theorem Asked.signed {operators : List Operator} {words : List String} {s : Statement}
    (form : Asked operators words s) :
    ∀ operator ∈ operators, operator.sign?.isSome = true := by
  have row (making : Making) (n : Nat) :
      ∀ operator ∈ List.replicate n making.operator, operator.sign?.isSome = true := by
    intro operator member
    rw [List.eq_of_mem_replicate member]
    exact making.signed
  cases form with
  | route => exact List.forall_mem_singleton.mpr rfl
  | row making => exact row making _
  | definition making => exact List.forall_mem_cons.mpr ⟨rfl, row making _⟩

end Statement

namespace Expr

open Statement (Asked)

theorem row_eq_chain {operator : Operator} {first : String} {links : List (Operator × String)}
    {n : Nat} (shape : links.map Prod.fst = List.replicate n operator) :
    row operator (first :: links.map Prod.snd) = chain first links := by
  refine chain_eq_of_same ?_ ?_
  · simp
  · have length := congrArg List.length shape
    simp only [List.length_map, List.length_replicate] at length
    simp [shape, ← length, Function.comp_def]

theorem expr_of_asked {first : String} {links : List (Operator × String)} {s : Statement}
    (form : Asked (links.map Prod.fst) (first :: links.map Prod.snd) s) :
    s.expr = chain first links := by
  generalize shape : links.map Prod.fst = operators at form
  generalize words : first :: links.map Prod.snd = labels at form
  cases form with
  | route origin destination =>
    obtain ⟨⟨_, _⟩, others, rfl, rfl, nil⟩ := List.map_eq_cons_iff.mp shape
    obtain rfl := List.map_eq_nil_iff.mp nil
    cases words
    rfl
  | row making =>
    rw [making.expr_statement, ← words]
    exact row_eq_chain shape
  | definition making _ name labels =>
    obtain ⟨⟨_, next⟩, others, rfl, rfl, rest⟩ := List.map_eq_cons_iff.mp shape
    obtain ⟨rfl, rfl⟩ := List.cons.inj words
    rw [making.expr_named, List.map_cons, row_eq_chain rest]
    rfl

mutual

theorem expr_of_means {e : Expr} {c : Command} : e.Means c → c.expr = e
  | .absent | .label _ => rfl
  | .asked form => expr_of_asked form
  | .statements each => congrArg Expr.statements (exprEach_of_means each)

theorem exprEach_of_means {es : List Expr} {cs : List Command} :
    List.Forall₂ Means es cs → Command.exprEach cs = es
  | .nil => rfl
  | .cons first others => congrArg₂ List.cons (expr_of_means first) (exprEach_of_means others)

end

mutual

theorem labels_of_means {e : Expr} {c : Command} : e.Means c → c.labels = e.labels
  | .absent | .label _ => rfl
  | .asked form => by rw [Command.labels_single, form.labels, labels_chain]
  | .statements each => labelsEach_of_means each

theorem labelsEach_of_means {es : List Expr} {cs : List Command} :
    List.Forall₂ Means es cs → (Command.batch cs).labels = labelsEach es
  | .nil => rfl
  | .cons first others => by
    rw [Command.labels_batch_cons, labels_of_means first, labelsEach_of_means others]
    rfl

end

end Expr
end ArrowGraph
