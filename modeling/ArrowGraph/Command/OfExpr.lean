import ArrowGraph.Command
import ArrowGraph.Expr

/-!
From an expression to the command that it asks for. A row of operations is taken apart from its
right end: each operation turns the command of its right-hand side into a larger one, or refuses it.
-/
namespace ArrowGraph

/-- Why an expression is no command. Each cause keeps the expressions that its message shows. -/
inductive MeaningError where
  | shapeless
  | unknownOperator (tag : String)
  | nameNotLabel (left : Expr)
  /-- The right-hand side of a definition is neither an arrow nor a composition. -/
  | notDefinable (name : String) (right : Expr) (command : Command)
  | sourceNotLabel (left : Expr)
  /-- An arrow ends in something that is neither a label nor an arrow. -/
  | notDrawable (source : String) (right : Expr) (command : Command)
  | outerNotLabel (left : Expr)
  /-- The inner side of a composition is neither a label nor a composition. -/
  | notComposable (outer : String) (right : Expr) (command : Command)
  | notRoutable (left right : Expr)
  deriving DecidableEq, Repr

/-- What the error says. An error that would show an expression without text has no message. -/
def MeaningError.message? : MeaningError → Option String
  | .shapeless => do return "Cannot lower ExpressionNode: " ++ (← Expr.shapeless.render?)
  | .unknownOperator tag => some ("Unknown operator: Operator." ++ tag)
  | .nameNotLabel left => do
    return "Definition name " ++ (← left.render?) ++ " is not a label"
  | .notDefinable name right command => do
    return "Cannot define " ++ name ++ " as " ++ (← right.render?) ++
      ": not an arrow or composition of arrows (" ++ command.title ++ ")"
  | .sourceNotLabel left => do
    return "Arrows must start from a named object, not " ++ (← left.render?)
  | .notDrawable source right command => do
    return "Cannot draw an arrow from " ++ source ++ " to " ++ (← right.render?) ++
      " (" ++ command.title ++ ")"
  | .outerNotLabel left => do
    return "First element of a composition must be a label, not " ++ (← left.render?)
  | .notComposable outer right command => do
    return "Cannot compose " ++ outer ++ " with " ++ (← right.render?) ++
      " (" ++ command.title ++ ")"
  | .notRoutable left right => do
    return "Can only route between named objects, not " ++
      (← (Expr.operation .route left right).render?)

namespace Command

def ofDefinition (left right : Expr) (command : Command) : Except MeaningError Command :=
  match left with
  | .label name =>
    match command with
    | .single (.compose outer inner) => .ok (.single (.composeNamed name outer inner))
    | .single (.draw source target) => .ok (.single (.drawNamed name source target))
    | .single (.drawChain objects) => .ok (.single (.drawNamedChain name objects))
    | .single (.composeChain arrows) => .ok (.single (.composeNamedChain name arrows))
    | other => .error (.notDefinable name right other)
  | left => .error (.nameNotLabel left)

def ofArrow (left right : Expr) (command : Command) : Except MeaningError Command :=
  match left with
  | .label source =>
    match right with
    | .label target => .ok (.single (.draw source target))
    | right =>
      match command with
      | .single (.draw middle target) => .ok (.single (.drawChain [source, middle, target]))
      | .single (.drawChain objects) => .ok (.single (.drawChain (source :: objects)))
      | other => .error (.notDrawable source right other)
  | left => .error (.sourceNotLabel left)

def ofComposition (left right : Expr) (command : Command) : Except MeaningError Command :=
  match left with
  | .label outer =>
    match right with
    | .label inner => .ok (.single (.compose outer inner))
    | right =>
      match command with
      | .single (.compose middle inner) =>
        .ok (.single (.composeChain [outer, middle, inner]))
      | .single (.composeChain arrows) => .ok (.single (.composeChain (outer :: arrows)))
      | other => .error (.notComposable outer right other)
  | left => .error (.outerNotLabel left)

def ofRoute (left right : Expr) : Except MeaningError Command :=
  match left, right with
  | .label origin, .label destination => .ok (.single (.findRoute origin destination))
  | left, right => .error (.notRoutable left right)

structure Link where
  operator : Operator
  left : Expr
  right : Expr

/-- The command of an operation, where `command` is that of its right-hand side. -/
def Link.close (link : Link) (command : Command) : Except MeaningError Command :=
  match link.operator with
  | .define => ofDefinition link.left link.right command
  | .arrow => ofArrow link.left link.right command
  | .compose => ofComposition link.left link.right command
  | .route => ofRoute link.left link.right
  | .other tag => .error (.unknownOperator tag)

/-- The command of a row of operations, innermost first, around the command of its end. -/
def closeLinks (links : List Link) (command : Command) : Except MeaningError Command :=
  links.foldlM (fun inner link => link.close inner) command

mutual

/-- The command of an expression that is the right end of the operations `links`, innermost
first. -/
def ofExprWithin (links : List Link) : Expr → Except MeaningError Command
  | .absent => closeLinks links (.single .skip)
  | .shapeless => .error .shapeless
  | .label name => closeLinks links (.single (.describe name))
  | .operation operator left right => ofExprWithin (⟨operator, left, right⟩ :: links) right
  | .statements list => do
    let commands ← ofEachExpr list
    closeLinks links (.batch commands)

def ofEachExpr : List Expr → Except MeaningError (List Command)
  | [] => .ok []
  | e :: es => do
    let command ← ofExprWithin [] e
    let commands ← ofEachExpr es
    return command :: commands

end

def ofExpr (e : Expr) : Except MeaningError Command :=
  ofExprWithin [] e

end Command
end ArrowGraph
