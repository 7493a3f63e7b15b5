import ArrowGraph.Proofs.Expr.Line

/-! The way from an expression to text and back. The text of a line's expression falls into its
lexemes, and these are read as the expression again; only a list of one statement comes back
without being a list. -/
namespace ArrowGraph

open Token (scan)

def Lexeme.gap : Lexeme :=
  ⟨.blank, " "⟩

def Lexeme.semicolon : Lexeme :=
  ⟨.semicolon, ";"⟩

def Operator.lexemes : Operator → List Lexeme
  | define => [⟨.colon, ":"⟩]
  | arrow => [.gap, ⟨.arrow, "->"⟩]
  | compose => [.gap, ⟨.dot, "."⟩]
  | route => [.gap, ⟨.route, "--"⟩]
  | other _ => []

namespace Expr

def lexemes : Expr → List Lexeme
  | .label name => [⟨.label, name⟩]
  | .operation operator (.label name) right =>
    ⟨.label, name⟩ :: (operator.lexemes ++ .gap :: lexemes right)
  | _ => []

def joined (es : List Expr) : List Lexeme :=
  [.semicolon, .gap].intercalate (es.map lexemes)

def line : Expr → List Lexeme
  | .statements es => joined es
  | e => e.lexemes

/-- A list of one statement is not told from the statement once it is written. -/
def unlisted : Expr → Expr
  | .statements [e] => e
  | e => e

variable {e : Expr} {es : List Expr}

theorem IsStatement.line_eq (statement : IsStatement e) : e.line = e.lexemes := by
  cases statement <;> rfl

theorem IsStatement.unlisted_eq (statement : IsStatement e) : e.unlisted = e := by
  cases statement <;> rfl

theorem IsStatement.lexemes_cons (statement : IsStatement e) :
    ∃ name rest, e.lexemes = ⟨.label, name⟩ :: rest := by
  cases statement with
  | label => exact ⟨_, _, rfl⟩
  | operation => exact ⟨_, _, rfl⟩

@[simp] theorem joined_singleton (e : Expr) : joined [e] = e.lexemes := by
  simp [joined]

@[simp] theorem joined_cons_cons (e f : Expr) (es : List Expr) :
    joined (e :: f :: es) = e.lexemes ++ .semicolon :: .gap :: joined (f :: es) := by
  simp [joined, List.intercalate_cons_cons]

theorem joined_cons (e : Expr) (es : List Expr) : ∃ rest, joined (e :: es) = e.lexemes ++ rest := by
  cases es with
  | nil => exact ⟨[], by simp⟩
  | cons f es => exact ⟨_, joined_cons_cons e f es⟩

/-! Rendering writes the lexemes one after another. -/

theorem toList_sign {operator : Operator} {sign : String} (known : operator.sign? = some sign) :
    sign.toList = Lexeme.written operator.lexemes := by
  cases operator <;> cases known <;> rfl

theorem IsStatement.renderAfter (statement : IsStatement e) (before : String) :
    renderAfter? before e = some (before ++ String.ofList (Lexeme.written e.lexemes)) := by
  induction statement generalizing before with
  | label => simp [renderAfter?, lexemes, String.ofList_toList]
  | @operation operator name right known _ _ ih =>
    obtain ⟨sign, signed⟩ := Option.isSome_iff_exists.mp known
    simp only [renderAfter?, signed, Option.bind_eq_bind, Option.bind_some, ih, Option.some.injEq]
    apply String.toList_injective
    simp [lexemes, toList_sign signed, Lexeme.gap]

theorem renderEach_of_statements (each : ∀ e ∈ es, IsStatement e) :
    renderEach? es = some (es.map fun e => String.ofList (Lexeme.written e.lexemes)) := by
  induction es with
  | nil => rfl
  | cons e es ih =>
    have first := (each e (List.mem_cons_self ..)).renderAfter ""
    have others := ih fun f hf => each f (List.mem_cons_of_mem _ hf)
    simp [renderEach?, first, others]

theorem written_intercalate (sep : List Lexeme) (lines : List (List Lexeme)) :
    Lexeme.written (sep.intercalate lines) =
      (Lexeme.written sep).intercalate (lines.map Lexeme.written) := by
  induction lines with
  | nil => rfl
  | cons line lines ih =>
    cases lines with
    | nil => simp
    | cons next lines =>
      rw [List.intercalate_cons_cons, Lexeme.written_append, Lexeme.written_append, ih]
      simp [List.intercalate_cons_cons]

theorem IsLine.render (isLine : IsLine e) :
    e.render? = some (String.ofList (Lexeme.written e.line)) := by
  cases isLine with
  | single statement => simpa [statement.line_eq, render?] using statement.renderAfter ""
  | list _ each =>
    simp only [render?, renderAfter?, renderEach_of_statements each, Option.bind_eq_bind,
      Option.bind_some]
    refine congrArg some (String.toList_injective ?_)
    simp [String.toList_intercalate, line, joined, written_intercalate, Lexeme.semicolon, Lexeme.gap,
      Function.comp_def]

/-! The lexemes are well spelled and stay apart. -/

theorem spelled_gap : Lexeme.gap.Spelled := by
  refine ⟨List.cons_ne_nil _ _, ?_⟩
  rintro c (_ | ⟨_, ⟨⟩⟩)
  rfl

theorem spelled_operator {operator : Operator} :
    ∀ l ∈ operator.lexemes, l.Spelled := by
  cases operator with
  | define | other => simp [Operator.lexemes, Lexeme.Spelled, TokenKind.Spells]
  | arrow | compose | route =>
    simp only [Operator.lexemes, List.forall_mem_cons]
    exact ⟨spelled_gap, rfl, List.forall_mem_nil _⟩

theorem IsStatement.spelled (statement : IsStatement e) : ∀ l ∈ e.lexemes, l.Spelled := by
  induction statement with
  | label legal =>
    rw [lexemes, List.forall_mem_singleton]
    exact legal
  | operation _ legal _ ih =>
    intro l member
    rcases List.mem_cons.mp member with rfl | later
    · exact legal
    · rcases List.mem_append.mp later with sign | later
      · exact spelled_operator l sign
      · rcases List.mem_cons.mp later with rfl | later
        · exact spelled_gap
        · exact ih l later

theorem IsStatement.apart (statement : IsStatement e) : e.lexemes.IsChain Lexeme.Apart := by
  induction statement with
  | label => exact .singleton _
  | @operation operator name right known _ rest ih =>
    obtain ⟨first, others, shape⟩ := rest.lexemes_cons
    rw [shape] at ih
    cases operator with
    | other => cases known
    | define | arrow | compose | route =>
      simp [lexemes, Operator.lexemes, shape, ih, Lexeme.Apart, Lexeme.gap]

theorem spelled_joined (each : ∀ e ∈ es, IsStatement e) : ∀ l ∈ joined es, l.Spelled := by
  induction es with
  | nil => simp [joined]
  | cons e es ih =>
    have first := (each e (List.mem_cons_self ..)).spelled
    have others := ih fun f hf => each f (List.mem_cons_of_mem _ hf)
    cases es with
    | nil => simpa using first
    | cons f es =>
      rw [joined_cons_cons, List.forall_mem_append, List.forall_mem_cons, List.forall_mem_cons]
      exact ⟨first, rfl, spelled_gap, others⟩

theorem apart_joined (each : ∀ e ∈ es, IsStatement e) : (joined es).IsChain Lexeme.Apart := by
  induction es with
  | nil => simp [joined]
  | cons e es ih =>
    have first := (each e (List.mem_cons_self ..)).apart
    have others := ih fun f hf => each f (List.mem_cons_of_mem _ hf)
    cases es with
    | nil => simpa using first
    | cons f es =>
      obtain ⟨name, rest, shape⟩ := (each f (by simp)).lexemes_cons
      obtain ⟨later, start⟩ := joined_cons f es
      rw [start, shape] at others
      rw [joined_cons_cons, start, shape, List.isChain_append]
      refine ⟨first, ?_, ?_⟩
      · simpa [Lexeme.Apart, Lexeme.semicolon, Lexeme.gap] using others
      · intro l _ m next
        obtain rfl : Lexeme.semicolon = m := by simpa using next
        intro same
        simp [same, Lexeme.semicolon]

theorem IsLine.spelled (isLine : IsLine e) : ∀ l ∈ e.line, l.Spelled := by
  cases isLine with
  | single statement => exact statement.line_eq ▸ statement.spelled
  | list _ each => exact spelled_joined each

theorem IsLine.apart (isLine : IsLine e) : e.line.IsChain Lexeme.Apart := by
  cases isLine with
  | single statement => exact statement.line_eq ▸ statement.apart
  | list _ each => exact apart_joined each

/-! Tokens with these lexemes are read as the expression. -/

theorem significant_operator {operator : Operator} (known : operator.sign?.isSome = true) :
    ∃ l, Lexeme.significant operator.lexemes = [l] ∧ l.kind.operator? = some operator := by
  cases operator with
  | other => cases known
  | define | arrow | compose | route => exact ⟨_, rfl, rfl⟩

theorem IsStatement.significant_cons (statement : IsStatement e) :
    ∃ name rest, Lexeme.significant e.lexemes = ⟨.label, name⟩ :: rest := by
  obtain ⟨name, rest, shape⟩ := statement.lexemes_cons
  exact ⟨name, Lexeme.significant rest, by rw [shape]; rfl⟩

theorem significant_operation {operator : Operator} {name : String} {right : Expr} {l : Lexeme}
    (sign : Lexeme.significant operator.lexemes = [l]) :
    Lexeme.significant (lexemes (.operation operator (.label name) right)) =
      ⟨.label, name⟩ :: l :: Lexeme.significant right.lexemes := by
  rw [lexemes, Lexeme.significant_cons_of_ne (by simp), Lexeme.significant_append, sign]
  rfl

theorem IsStatement.ofStatement (statement : IsStatement e) {first : Token} {rest : List Token}
    (same : (first :: rest).map Token.lexeme = Lexeme.significant e.lexemes) :
    Expr.ofStatement first rest = .ok e := by
  obtain ⟨kind, text, column⟩ := first
  induction statement generalizing kind text column rest with
  | label =>
    obtain ⟨head, tail⟩ := List.cons.inj same
    obtain rfl := List.map_eq_nil_iff.mp tail
    cases head
    rfl
  | @operation operator name right known _ statement ih =>
    obtain ⟨l, sign, stands⟩ := significant_operator known
    obtain ⟨next, others, shape⟩ := statement.significant_cons
    rw [significant_operation sign] at same
    obtain ⟨head, tail⟩ := List.cons.inj same
    cases head
    obtain ⟨second, after, rfl, rfl, later⟩ := List.map_eq_cons_iff.mp tail
    obtain ⟨⟨kind, text, column⟩, last, rfl, -, -⟩ := List.map_eq_cons_iff.mp (later.trans shape)
    have read := ih kind text column later
    change second.kind.operator? = some operator at stands
    simp [Expr.ofStatement, stands, read]

theorem IsStatement.noSemicolon (statement : IsStatement e) :
    ∀ l ∈ Lexeme.significant e.lexemes, l.kind ≠ .semicolon := by
  induction statement with
  | label => simp [lexemes, Lexeme.significant]
  | operation known _ _ ih =>
    obtain ⟨l, sign, stands⟩ := significant_operator known
    rw [significant_operation sign, List.forall_mem_cons, List.forall_mem_cons]
    refine ⟨by simp, ?_, ih⟩
    intro semicolon
    rw [semicolon] at stands
    cases stands

theorem IsStatement.noSplit (statement : IsStatement e) {ts : List Token}
    (same : ts.map Token.lexeme = Lexeme.significant e.lexemes) :
    ∀ t ∈ ts, t.kind ≠ .semicolon := by
  intro t member
  have inside := List.mem_map_of_mem (f := Token.lexeme) member
  rw [same] at inside
  exact statement.noSemicolon _ inside

theorem significant_joined_cons_cons (e f : Expr) (es : List Expr) :
    Lexeme.significant (joined (e :: f :: es)) =
      Lexeme.significant e.lexemes ++ .semicolon :: Lexeme.significant (joined (f :: es)) := by
  rw [joined_cons_cons, Lexeme.significant_append]
  rfl

theorem mapM_segments (each : ∀ e ∈ es, IsStatement e) (nonempty : es ≠ []) {ts : List Token}
    (same : ts.map Token.lexeme = Lexeme.significant (joined es)) :
    (segments ts).mapM (fun part => Expr.ofStatement part.1 part.2) = .ok es := by
  induction es generalizing ts with
  | nil => exact absurd rfl nonempty
  | cons e es ih =>
    have statement := each e (List.mem_cons_self ..)
    obtain ⟨name, others, shape⟩ := statement.significant_cons
    cases es with
    | nil =>
      rw [joined_singleton] at same
      obtain ⟨first, rest, rfl, -, -⟩ := List.map_eq_cons_iff.mp (same.trans shape)
      rw [segments_of_no_semicolon (statement.noSplit same), mapM_ok_iff]
      exact .cons (statement.ofStatement same) .nil
    | cons f es =>
      rw [significant_joined_cons_cons] at same
      obtain ⟨before, after, rfl, here, there⟩ := List.map_eq_append_iff.mp same
      obtain ⟨sep, later, rfl, isSemicolon, there⟩ := List.map_eq_cons_iff.mp there
      obtain ⟨first, rest, rfl, -, -⟩ := List.map_eq_cons_iff.mp (here.trans shape)
      rw [segments_append (congrArg Lexeme.kind isSemicolon),
        segments_of_no_semicolon (statement.noSplit here), mapM_ok_iff]
      have others := ih (fun f hf => each f (List.mem_cons_of_mem _ hf)) (List.cons_ne_nil _ _) there
      exact .cons (statement.ofStatement here) (mapM_ok_iff.mp others)

theorem IsLine.read (isLine : IsLine e) {ts : List Token} (same : ts.map Token.lexeme = e.line) :
    (Expr.read ts).result = .ok e.unlisted := by
  have meaningful : (Token.significant ts).map Token.lexeme = Lexeme.significant e.line := by
    rw [Lexeme.map_lexeme_significant, same]
  simp only [Expr.read]
  generalize Token.significant ts = us at meaningful ⊢
  have one {e : Expr} (statement : IsStatement e)
      (same : us.map Token.lexeme = Lexeme.significant e.lexemes) : ofTokens us = .ok e := by
    obtain ⟨name, others, shape⟩ := statement.significant_cons
    obtain ⟨first, rest, rfl, -, -⟩ := List.map_eq_cons_iff.mp (same.trans shape)
    rw [ofTokens_of_no_semicolon (statement.noSplit same)]
    exact statement.ofStatement same
  cases isLine with
  | single statement =>
    rw [statement.line_eq] at meaningful
    rw [statement.unlisted_eq]
    exact one statement meaningful
  | @list es nonempty each =>
    obtain ⟨e, others, rfl⟩ := List.exists_cons_of_ne_nil nonempty
    cases others with
    | nil =>
      rw [line, joined_singleton] at meaningful
      exact one (each e (List.mem_cons_self ..)) meaningful
    | cons f es =>
      have read := mapM_segments each (List.cons_ne_nil _ _) meaningful
      have sep : Lexeme.semicolon ∈ us.map Token.lexeme := by
        rw [meaningful, line, significant_joined_cons_cons]
        simp
      obtain ⟨t, member, shape⟩ := List.mem_map.mp sep
      rw [ofTokens_of_semicolon ⟨t, member, congrArg Lexeme.kind shape⟩, read, if_neg]
      · rfl
      · intro none_left
        rw [none_left] at read
        cases read

end Expr
end ArrowGraph
