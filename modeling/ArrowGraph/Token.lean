import ArrowGraph.Text.Layout
import ArrowGraph.Text.Quoted

/-!
Tokens, and the way from text to them. At each place the longest token that starts there is taken;
a place where none starts is the error. Main statements: the first token and what follows it make up
the text, a token is never empty, and the texts of all tokens together are the text that was
scanned.
-/
namespace ArrowGraph

inductive TokenKind where
  | label
  | blank
  | colon
  | arrow
  | dot
  | semicolon
  | route
  deriving DecidableEq, Repr

def TokenKind.name : TokenKind → String
  | .label => "LABEL"
  | .blank => "WHITESPACE"
  | .colon => "COLON"
  | .arrow => "ARROW"
  | .dot => "DOT"
  | .semicolon => "SEMICOLON"
  | .route => "ROUTE"

/-- A piece of a line, with the column of its first character; the first column is 1. -/
structure Token where
  kind : TokenKind
  text : String
  column : Int := 0
  deriving DecidableEq, Repr

namespace Token

def display (t : Token) : String :=
  "Token(" ++ t.kind.name ++ ", " ++ Text.quote t.text ++ ", C" ++ toString t.column ++ ")"

def displayAll (ts : List Token) : String :=
  Text.bracketed (ts.map display)

def joined (ts : List Token) : String :=
  " ".intercalate (ts.map text)

/-- The tokens that carry meaning: all but white space. -/
def significant (ts : List Token) : List Token :=
  ts.filter fun t => t.kind ≠ .blank

theorem significant_append (ts us : List Token) :
    significant (ts ++ us) = significant ts ++ significant us :=
  List.filter_append ..

def isLabelChar (c : Char) : Bool :=
  ('a' ≤ c && c ≤ 'z') || ('A' ≤ c && c ≤ 'Z') || c = '\''

/-- The token at the start of a text, if there is one: its kind, its characters, and the rest. -/
def firstLexeme : List Char → Option (TokenKind × List Char × List Char)
  | [] => none
  | '-' :: '>' :: cs => some (.arrow, ['-', '>'], cs)
  | '-' :: '-' :: cs => some (.route, ['-', '-'], cs)
  | ':' :: cs => some (.colon, [':'], cs)
  | '.' :: cs => some (.dot, ['.'], cs)
  | ';' :: cs => some (.semicolon, [';'], cs)
  | c :: cs =>
    if isLabelChar c then
      some (.label, c :: cs.takeWhile isLabelChar, cs.dropWhile isLabelChar)
    else if Text.isBlank c then
      some (.blank, c :: cs.takeWhile Text.isBlank, cs.dropWhile Text.isBlank)
    else none

theorem split_of_firstLexeme {cs lexeme rest : List Char} {kind : TokenKind}
    (found : firstLexeme cs = some (kind, lexeme, rest)) :
    lexeme ++ rest = cs ∧ lexeme ≠ [] := by
  fun_cases firstLexeme cs <;> simp_all [firstLexeme]
  all_goals
    obtain ⟨_, rfl, rfl⟩ := found
    simp

theorem length_lt_of_firstLexeme {cs lexeme rest : List Char} {kind : TokenKind}
    (found : firstLexeme cs = some (kind, lexeme, rest)) : rest.length < cs.length := by
  obtain ⟨whole, nonempty⟩ := split_of_firstLexeme found
  have whole := congrArg List.length whole
  have some_char := List.length_pos_iff.mpr nonempty
  rw [List.length_append] at whole
  omega

/-- The place where no token starts: what is left of the text, and its first column. -/
structure ScanError where
  remainder : String
  column : Nat
  deriving DecidableEq, Repr

def ScanError.message (e : ScanError) : String :=
  "Unrecognized input at col " ++ toString e.column ++ ": " ++ Text.quote e.remainder

/-- The tokens of a text that starts at the given column. -/
def scanFrom (column : Nat) (cs : List Char) : Except ScanError (List Token) :=
  if cs.isEmpty then .ok []
  else
    match _found : firstLexeme cs with
    | none => .error ⟨String.ofList cs, column⟩
    | some (kind, lexeme, rest) =>
      (⟨kind, String.ofList lexeme, column⟩ :: ·) <$> scanFrom (column + lexeme.length) rest
termination_by cs.length
decreasing_by exact length_lt_of_firstLexeme _found

def scan (line : String) : Except ScanError (List Token) :=
  scanFrom 1 line.toList

theorem flatMap_of_scanFrom {column : Nat} {cs : List Char} {ts : List Token}
    (scanned : scanFrom column cs = .ok ts) : ts.flatMap (·.text.toList) = cs := by
  induction h : cs.length using Nat.strongRecOn generalizing column cs ts with
  | ind n ih =>
    rw [scanFrom] at scanned
    split at scanned
    · next none_left =>
      obtain rfl : cs = [] := List.isEmpty_iff.mp none_left
      cases scanned
      rfl
    · split at scanned
      · cases scanned
      · next kind lexeme rest found =>
        have shorter := length_lt_of_firstLexeme found
        have whole := (split_of_firstLexeme found).1
        cases tail : scanFrom (column + lexeme.length) rest with
        | error e =>
          rw [tail] at scanned
          cases scanned
        | ok us =>
          rw [tail] at scanned
          cases scanned
          have rest_whole := ih rest.length (h ▸ shorter) tail rfl
          simp only [List.flatMap_cons, String.toList_ofList, rest_whole, whole]

end Token
end ArrowGraph
