import ArrowGraph.Command.OfExpr
import ArrowGraph.Command.Apply
import ArrowGraph.Expr.OfTokens
import ArrowGraph.Token

namespace ArrowGraph

/-- The kinds of failure. All but the last belong to the language. -/
inductive FailureKind where
  | scan
  | parse
  | meaning
  | control
  /-- Two arrows do not meet; this is a way in which a command cannot be carried out. -/
  | composition
  /-- Some failure of the language that is none of these. -/
  | general
  /-- A failure that the language does not know, with the name of its kind. -/
  | foreign (name : String)
  deriving DecidableEq, Repr

namespace FailureKind

def name : FailureKind → String
  | .scan => "LexError"
  | .parse => "ParseError"
  | .meaning => "InterpretError"
  | .control => "ControllerError"
  | .composition => "CompositionError"
  | .general => "QuiverError"
  | .foreign name => name

def isNative : FailureKind → Bool
  | .foreign _ => false
  | _ => true

def noText : FailureKind :=
  .foreign "KeyError"

def heading : FailureKind → String
  | .scan => "Lex Error"
  | .parse => "Parse Error"
  | .meaning => "Interpret Error"
  | .control | .composition => "Controller Error"
  | .general => "Error"
  | .foreign name => "Error: " ++ name

end FailureKind

inductive Failure where
  | scan (error : Token.ScanError)
  | parse (error : ParseError)
  | meaning (error : MeaningError)
  | apply (error : ApplyError)
  /-- A failure that comes from elsewhere, with its kind and what it says. -/
  | given (kind : FailureKind) (message : String)
  deriving DecidableEq, Repr

/-- The kind of an error of meaning. One that has no message fails because of what it would show. -/
def MeaningError.kind (error : MeaningError) : FailureKind :=
  if error.message?.isSome then .meaning else .noText

def ApplyError.kind : ApplyError → FailureKind
  | .unspecified => .control
  | .mismatch _ => .composition
  | .noObjects => .foreign "IndexError"
  | .noArrows => .foreign "TypeError"

namespace Failure

def kind : Failure → FailureKind
  | .scan _ => .scan
  | .parse _ => .parse
  | .meaning error => error.kind
  | .apply error => error.kind
  | .given kind _ => kind

def message : Failure → String
  | .scan error => error.message
  | .parse error => error.message
  | .meaning error => error.message?.getD ""
  | .apply error => error.message
  | .given _ message => message

end Failure
end ArrowGraph
