import ArrowGraph.Proofs.Command.Refusal

namespace ArrowGraph

open Command (ofExpr ofEachExpr)

namespace Expr

mutual

/-- The command of an expression. A right-hand side comes first, then the operator has to be known,
then its rule decides about the left-hand side. -/
def command : Expr → Except MeaningError Command
  | absent => .ok (.single .skip)
  | shapeless => .error .shapeless
  | label name => .ok (.single (.describe name))
  | operation operator left right => do
    let inner ← command right
    match operator with
    | .other tag => .error (.unknownOperator tag)
    | .define => Command.ofDefinition left right inner
    | .arrow => Command.ofArrow left right inner
    | .compose => Command.ofComposition left right inner
    | .route => Command.ofRoute left right
  | statements es => .batch <$> commandEach es

def commandEach : List Expr → Except MeaningError (List Command)
  | [] => .ok []
  | e :: es => do
    let first ← command e
    let others ← commandEach es
    return first :: others

end

mutual

/-- The text of an expression. An operation is its left-hand side, the sign of the operator, a blank
and its right-hand side. -/
def text? : Expr → Option String
  | absent => some "None"
  | shapeless => some "ExpressionNode()"
  | label name => some name
  | operation operator left right => do
    let before ← text? left
    let sign ← operator.sign?
    let after ← text? right
    return before ++ sign ++ " " ++ after
  | statements es => "; ".intercalate <$> textEach? es

def textEach? : List Expr → Option (List String)
  | [] => some []
  | e :: es => do
    let first ← text? e
    let others ← textEach? es
    return first :: others

end

mutual

theorem ofExpr_eq_command : ∀ e : Expr, ofExpr e = e.command
  | .absent | .shapeless | .label _ => rfl
  | .operation operator left right => by
    rw [Command.ofExpr_operation, ofExpr_eq_command right, command]
    cases operator <;> rfl
  | .statements es => by
    rw [Command.ofExpr_statements, ofEachExpr_eq_command es, command]

theorem ofEachExpr_eq_command : ∀ es : List Expr, ofEachExpr es = commandEach es
  | [] => rfl
  | e :: es => by
    rw [Command.ofEachExpr_cons, ofExpr_eq_command e, ofEachExpr_eq_command es, commandEach]

end

mutual

theorem renderAfter?_eq_text (written : String) : ∀ e : Expr,
    renderAfter? written e = (written ++ ·) <$> e.text?
  | .absent | .shapeless | .label _ => rfl
  | .operation operator left right => by
    rw [renderAfter?, text?, renderAfter?_eq_text written left]
    cases left.text? with
    | none => rfl
    | some before =>
      cases operator.sign? with
      | none => rfl
      | some sign =>
        change renderAfter? (written ++ before ++ sign ++ " ") right = _
        rw [renderAfter?_eq_text _ right]
        cases right.text? <;> simp [String.append_assoc]
  | .statements es => by
    rw [renderAfter?, text?, renderEach?_eq_text es]
    cases textEach? es <;> rfl

theorem renderEach?_eq_text : ∀ es : List Expr, renderEach? es = textEach? es
  | [] => rfl
  | e :: es => by
    rw [renderEach?, textEach?, renderAfter?_eq_text "" e, renderEach?_eq_text es]
    cases e.text? <;> simp

end

theorem render?_eq_text (e : Expr) : e.render? = e.text? := by
  rw [render?, renderAfter?_eq_text]
  cases e.text? <;> simp

/-- Operations around an expression, each with its left-hand side, the outermost first. -/
def around (links : List (Operator × Expr)) (e : Expr) : Expr :=
  links.foldr (fun link right => .operation link.1 link.2 right) e

theorem ofExpr_around_error_iff {links : List (Operator × Expr)} {e : Expr}
    {error : MeaningError} :
    ofExpr (around links e) = .error error ↔ ofExpr e = .error error ∨
      ∃ outer operator left inner c, links = outer ++ (operator, left) :: inner ∧
        ofExpr (around inner e) = .ok c ∧
        Command.Link.close ⟨operator, left, around inner e⟩ c = .error error := by
  induction links with
  | nil => simp [around]
  | cons link links ih =>
    obtain ⟨operator, left⟩ := link
    have step : ofExpr (around ((operator, left) :: links) e) =
        ofExpr (around links e) >>= Command.Link.close ⟨operator, left, around links e⟩ :=
      Command.ofExpr_operation operator left (around links e)
    rw [step, bind_eq_error_iff, ih]
    constructor
    · rintro ((last | ⟨outer, o, l, inner, c, rfl, reached, refused⟩) | ⟨c, reached, refused⟩)
      · exact .inl last
      · exact .inr ⟨(operator, left) :: outer, o, l, inner, c, rfl, reached, refused⟩
      · exact .inr ⟨[], operator, left, links, c, rfl, reached, refused⟩
    · rintro (last | ⟨outer, o, l, inner, c, split, reached, refused⟩)
      · exact .inl (.inl last)
      · rcases List.cons_eq_append_iff.mp split with ⟨rfl, here⟩ | ⟨outer, rfl, rfl⟩
        · cases here
          exact .inr ⟨c, reached, refused⟩
        · exact .inl (.inr ⟨outer, o, l, inner, c, rfl, reached, refused⟩)

/-- Walking along right-hand sides gives the command or the fault that recursion gives, and of the
faults in a chain the innermost; it has a message, if the left-hand sides can be written. Writing
gives the text that recursion gives, and there is one if all operators have signs. -/
theorem walking_is_recursion :
    (∀ e : Expr, ofExpr e = e.command) ∧
    (∀ (links : List (Operator × Expr)) (e : Expr) (error : MeaningError),
      ofExpr (around links e) = .error error ↔ ofExpr e = .error error ∨
        ∃ outer operator left inner c, links = outer ++ (operator, left) :: inner ∧
          ofExpr (around inner e) = .ok c ∧
          Command.Link.close ⟨operator, left, around inner e⟩ c = .error error) ∧
    (∀ e : Expr, e.LeftsSigned → ∀ error, ofExpr e = .error error → error.kind = .meaning) ∧
    (∀ e : Expr, e.render? = e.text?) ∧
    ∀ e : Expr, (∀ operator ∈ e.operators, operator.sign?.isSome = true) →
      ∃ text, e.render? = some text := by
  refine ⟨ofExpr_eq_command, fun _ _ _ => ofExpr_around_error_iff, ?_, render?_eq_text, ?_⟩
  · intro e lefts error refused
    rw [MeaningError.kind, message_of_refused lefts refused, if_pos rfl]
  · intro e signed
    exact Option.isSome_iff_exists.mp (isSome_renderAfter?_of_signed "" signed)

def threeFaults : Expr :=
  around [(.define, .label "f"), (.other "CROSS", .label "a"), (.arrow, .statements [])]
    (.label "b")

def misshapen : Expr :=
  .operation .arrow (.operation .compose (.label "g") (.label "f"))
    (.statements [.label "a", .statements [.absent, .label "b"]])

/-- Of the three faults the arrow is blamed, and there is no text. The other expression is no command
either, but it can be written. -/
theorem walking_is_recursion_faults :
    threeFaults.LeftsSigned ∧ threeFaults.command = .error (.sourceNotLabel (.statements [])) ∧
    ofExpr threeFaults = .error (.sourceNotLabel (.statements [])) ∧
    (MeaningError.sourceNotLabel (.statements [])).kind = .meaning ∧ threeFaults.render? = none ∧
    (∀ operator ∈ misshapen.operators, operator.sign?.isSome = true) ∧
    ∃ text, misshapen.render? = some text ∧ text = "g . f -> a; None; b" := by
  obtain ⟨commands, -, messages, texts, written⟩ := walking_is_recursion
  have lefts : threeFaults.LeftsSigned := by
    simp [threeFaults, around, LeftsSigned, operators, operatorsEach]
  have refused : threeFaults.command = .error (.sourceNotLabel (.statements [])) := by
    decide +kernel
  have unread := (commands threeFaults).trans refused
  have signed : ∀ operator ∈ misshapen.operators, operator.sign?.isSome = true := by decide
  obtain ⟨text, shown⟩ := written misshapen signed
  refine ⟨lefts, refused, unread, messages threeFaults lefts _ unread, ?_, signed, text, shown, ?_⟩
  · rw [texts]
    decide +kernel
  · rw [texts] at shown
    exact (Option.some.inj shown).symm

end Expr
end ArrowGraph
