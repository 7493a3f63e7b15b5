/-!
Expressions: what the tokens of a line mean, before anything is done. The text of an expression is
written from left to right along its right-hand sides; an expression has a text unless an operator
somewhere in it has no sign.
-/
namespace ArrowGraph

/-- The operators: `f: …`, `a -> …`, `g . …`, `a -- …`; any other is known by its tag alone. -/
inductive Operator where
  | define
  | arrow
  | compose
  | route
  | other (tag : String)
  deriving DecidableEq, Repr

def Operator.sign? : Operator → Option String
  | .define => some ":"
  | .arrow => some " ->"
  | .compose => some " ."
  | .route => some " --"
  | .other _ => none

/-- An expression. Reading a line gives labels, operations and statement lists; an absent
expression and one without shape are values of their own. -/
inductive Expr where
  | absent
  | shapeless
  | label (name : String)
  | operation (operator : Operator) (left right : Expr)
  | statements (list : List Expr)
  deriving Repr, Inhabited

namespace Expr

mutual

def decEq : (a b : Expr) → Decidable (a = b)
  | .absent, .absent => isTrue rfl
  | .shapeless, .shapeless => isTrue rfl
  | .label m, .label n =>
    if h : m = n then isTrue (h ▸ rfl) else isFalse fun same => h (label.inj same)
  | .operation o l r, .operation p m s =>
    match decEq l m, decEq r s with
    | isTrue hl, isTrue hr =>
      if ho : o = p then isTrue (ho ▸ hl ▸ hr ▸ rfl)
      else isFalse fun same => ho (operation.inj same).1
    | isFalse hl, _ => isFalse fun same => hl (operation.inj same).2.1
    | _, isFalse hr => isFalse fun same => hr (operation.inj same).2.2
  | .statements as, .statements bs =>
    match decEqEach as bs with
    | isTrue h => isTrue (h ▸ rfl)
    | isFalse h => isFalse fun same => h (statements.inj same)
  | .absent, .shapeless | .absent, .label _ | .absent, .operation .. | .absent, .statements _
  | .shapeless, .absent | .shapeless, .label _ | .shapeless, .operation ..
  | .shapeless, .statements _ | .label _, .absent | .label _, .shapeless
  | .label _, .operation .. | .label _, .statements _ | .operation .., .absent
  | .operation .., .shapeless | .operation .., .label _ | .operation .., .statements _
  | .statements _, .absent | .statements _, .shapeless | .statements _, .label _
  | .statements _, .operation .. => isFalse nofun

def decEqEach : (as bs : List Expr) → Decidable (as = bs)
  | [], [] => isTrue rfl
  | [], _ :: _ => isFalse nofun
  | _ :: _, [] => isFalse nofun
  | a :: as, b :: bs =>
    match decEq a b, decEqEach as bs with
    | isTrue h, isTrue t => isTrue (h ▸ t ▸ rfl)
    | isFalse h, _ => isFalse fun same => h (List.cons.inj same).1
    | _, isFalse t => isFalse fun same => t (List.cons.inj same).2

end

instance : DecidableEq Expr := decEq

mutual

/-- The text of an expression after what has been written already, if the expression has one. -/
def renderAfter? (written : String) : Expr → Option String
  | .absent => some (written ++ "None")
  | .shapeless => some (written ++ "ExpressionNode()")
  | .label name => some (written ++ name)
  | .operation operator left right => do
    let before ← renderAfter? written left
    let sign ← operator.sign?
    renderAfter? (before ++ sign ++ " ") right
  | .statements list => do
    let texts ← renderEach? list
    return written ++ "; ".intercalate texts

def renderEach? : List Expr → Option (List String)
  | [] => some []
  | e :: es => do
    let text ← renderAfter? "" e
    let texts ← renderEach? es
    return text :: texts

end

def render? (e : Expr) : Option String :=
  renderAfter? "" e

end Expr
end ArrowGraph
