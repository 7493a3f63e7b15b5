import ArrowGraph.Expr
import ArrowGraph.Token

/-!
From tokens to an expression. A statement is a label, or a label, an operator and a statement; a
line is one statement, or several with semicolons between them, of which empty ones are skipped.
-/
namespace ArrowGraph

def TokenKind.operator? : TokenKind → Option Operator
  | .colon => some .define
  | .arrow => some .arrow
  | .dot => some .compose
  | .route => some .route
  | .label | .blank | .semicolon => none

/-- Why tokens are not a line. Each cause keeps the tokens that its message shows. -/
inductive ParseError where
  | nothing
  | noStatements (tokens : List Token)
  /-- A token that is no label, with tokens after it, where a label has to stand. -/
  | labelExpected (found : Token) (rest : List Token)
  | lastNotLabel (found : Token)
  | operatorExpected (left found : Token) (rest : List Token)
  | rightMissing (left operator : Token)
  deriving DecidableEq, Repr

def ParseError.message : ParseError → String
  | .nothing => "Nothing to parse"
  | .noStatements tokens => "No statements in " ++ Text.quote (Token.joined tokens)
  | .labelExpected found rest =>
    "Cannot parse " ++ Text.quote (Token.joined (found :: rest)) ++ ": expected a label at col " ++
      toString found.column ++ ", got " ++ Text.quote found.text
  | .lastNotLabel found =>
    "Expected a label, got " ++ found.kind.name ++ " (" ++ Text.quote found.text ++ ") at col " ++
      toString found.column
  | .operatorExpected left found rest =>
    "Cannot parse " ++ Text.quote (Token.joined (left :: found :: rest)) ++
      ": expected an operator at col " ++ toString found.column ++ ", got " ++
      Text.quote found.text
  | .rightMissing left operator =>
    "Cannot parse " ++ Text.quote (Token.joined [left, operator]) ++
      ": missing right-hand side after " ++ Text.quote operator.text

namespace Expr

/-- The statement that starts with the token `first`. The leftmost fault is reported. -/
def ofStatement (first : Token) : List Token → Except ParseError Expr
  | [] => if first.kind = .label then .ok (.label first.text) else .error (.lastNotLabel first)
  | [second] =>
    if first.kind ≠ .label then .error (.labelExpected first [second])
    else
      match second.kind.operator? with
      | none => .error (.operatorExpected first second [])
      | some _ => .error (.rightMissing first second)
  | second :: third :: rest =>
    if first.kind ≠ .label then .error (.labelExpected first (second :: third :: rest))
    else
      match second.kind.operator? with
      | none => .error (.operatorExpected first second (third :: rest))
      | some operator => .operation operator (.label first.text) <$> ofStatement third rest

/-- The statements of a line, each as its first token and those after it; empty ones are left
out. -/
def segments (ts : List Token) : List (Token × List Token) :=
  (ts.splitOnP fun t => t.kind = .semicolon).filterMap fun
    | [] => none
    | first :: rest => some (first, rest)

def ofTokens : List Token → Except ParseError Expr
  | [] => .error .nothing
  | first :: rest =>
    if (first :: rest).any (·.kind = .semicolon) then
      match segments (first :: rest) with
      | [] => .error (.noStatements (first :: rest))
      | parts => .statements <$> parts.mapM fun part => ofStatement part.1 part.2
    else ofStatement first rest

theorem isSome_sign?_of_operator? {kind : TokenKind} {operator : Operator}
    (stands : kind.operator? = some operator) : operator.sign?.isSome = true := by
  cases kind <;> simp only [TokenKind.operator?, Option.some.injEq, reduceCtorEq] at stands
  all_goals subst stands; rfl

structure Reading where
  tokens : List Token
  result : Except ParseError Expr

/-- Read tokens: drop white space, then build the expression of the others. -/
def read (ts : List Token) : Reading :=
  ⟨Token.significant ts, ofTokens (Token.significant ts)⟩

end Expr
end ArrowGraph
