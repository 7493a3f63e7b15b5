import ArrowGraph.Failure
import ArrowGraph.Proofs.Command.Origin

namespace ArrowGraph.Expr

mutual

theorem signed_of_means {e : Expr} {c : Command} : e.Means c →
    ∀ operator ∈ e.operators, operator.sign?.isSome = true
  | .absent | .label _ => nofun
  | .asked form => by
    rw [operators_chain]
    exact form.signed
  | .statements each => signedEach_of_means each

theorem signedEach_of_means {es : List Expr} {cs : List Command} : List.Forall₂ Means es cs →
    ∀ operator ∈ operatorsEach es, operator.sign?.isSome = true
  | .nil => nofun
  | .cons first others =>
    List.forall_mem_append.mpr ⟨signed_of_means first, signedEach_of_means others⟩

end

mutual

theorem isSome_renderAfter?_of_signed (written : String) : ∀ {e : Expr},
    (∀ operator ∈ e.operators, operator.sign?.isSome = true) →
      (renderAfter? written e).isSome = true
  | .absent, _ | .shapeless, _ | .label _, _ => rfl
  | .operation operator left right, signed => by
    obtain ⟨inLeft, here, inRight⟩ :
        (∀ o ∈ left.operators, o.sign?.isSome = true) ∧ operator.sign?.isSome = true ∧
          ∀ o ∈ right.operators, o.sign?.isSome = true := by
      simpa only [operators, List.forall_mem_append, List.forall_mem_cons] using signed
    obtain ⟨before, first⟩ :=
      Option.isSome_iff_exists.mp (isSome_renderAfter?_of_signed written inLeft)
    obtain ⟨sign, second⟩ := Option.isSome_iff_exists.mp here
    simpa [renderAfter?, first, second] using isSome_renderAfter?_of_signed _ inRight
  | .statements es, signed => by
    obtain ⟨texts, each⟩ := Option.isSome_iff_exists.mp (isSome_renderEach?_of_signed signed)
    simp [renderAfter?, each]

theorem isSome_renderEach?_of_signed : ∀ {es : List Expr},
    (∀ operator ∈ operatorsEach es, operator.sign?.isSome = true) →
      (renderEach? es).isSome = true
  | [], _ => rfl
  | e :: es, signed => by
    obtain ⟨here, others⟩ := List.forall_mem_append.mp signed
    obtain ⟨text, first⟩ := Option.isSome_iff_exists.mp (isSome_renderAfter?_of_signed "" here)
    obtain ⟨texts, each⟩ := Option.isSome_iff_exists.mp (isSome_renderEach?_of_signed others)
    simp [renderEach?, first, each]

end

mutual

/-- All operators within left-hand sides have a sign. -/
def LeftsSigned : Expr → Prop
  | absent | shapeless | label _ => True
  | operation _ left right =>
    (∀ operator ∈ left.operators, operator.sign?.isSome = true) ∧ LeftsSigned right
  | statements es => LeftsSignedEach es

def LeftsSignedEach : List Expr → Prop
  | [] => True
  | e :: es => LeftsSigned e ∧ LeftsSignedEach es

end

theorem message_of_close {operator : Operator} {left right : Expr} {command : Command}
    {error : MeaningError} (inLeft : ∀ o ∈ left.operators, o.sign?.isSome = true)
    (inRight : ∀ o ∈ right.operators, o.sign?.isSome = true)
    (refused : Command.Link.close ⟨operator, left, right⟩ command = .error error) :
    error.message?.isSome = true := by
  obtain ⟨before, shownLeft⟩ :=
    Option.isSome_iff_exists.mp (isSome_renderAfter?_of_signed "" inLeft)
  obtain ⟨after, shownRight⟩ :=
    Option.isSome_iff_exists.mp (isSome_renderAfter?_of_signed "" inRight)
  cases operator with
  | other =>
    cases refused
    rfl
  | define =>
    simp only [Command.Link.close, Command.ofDefinition] at refused
    split at refused
    · split at refused <;> cases refused
      simp [MeaningError.message?, render?, shownRight]
    · cases refused
      simp [MeaningError.message?, render?, shownLeft]
  | arrow | compose =>
    simp only [Command.Link.close, Command.ofArrow, Command.ofComposition] at refused
    split at refused
    · split at refused
      · cases refused
      · split at refused <;> cases refused
        simp [MeaningError.message?, render?, shownRight]
    · cases refused
      simp [MeaningError.message?, render?, shownLeft]
  | route =>
    simp only [Command.Link.close, Command.ofRoute] at refused
    split at refused
    · cases refused
    · cases refused
      have signed : ∀ o ∈ (operation .route left right).operators, o.sign?.isSome = true :=
        List.forall_mem_append.mpr ⟨inLeft, List.forall_mem_cons.mpr ⟨rfl, inRight⟩⟩
      obtain ⟨text, shown⟩ :=
        Option.isSome_iff_exists.mp (isSome_renderAfter?_of_signed "" signed)
      simp [MeaningError.message?, render?, shown]

mutual

theorem message_of_refused : ∀ {e : Expr} {error : MeaningError}, e.LeftsSigned →
    Command.ofExpr e = .error error → error.message?.isSome = true
  | .absent, _, _, refused | .label _, _, _, refused => by cases refused
  | .shapeless, _, _, refused => by
    cases refused
    rfl
  | .operation operator left right, error, ⟨inLeft, onRight⟩, refused => by
    rw [Command.ofExpr_operation] at refused
    rcases bind_eq_error_iff.mp refused with inner | ⟨command, inner, closed⟩
    · exact message_of_refused onRight inner
    · exact message_of_close inLeft (signed_of_means (means_of_ofExpr inner)) closed
  | .statements es, error, lefts, refused => by
    rw [Command.ofExpr_statements] at refused
    exact messageEach_of_refused lefts (map_eq_error_iff.mp refused)

theorem messageEach_of_refused : ∀ {es : List Expr} {error : MeaningError}, LeftsSignedEach es →
    Command.ofEachExpr es = .error error → error.message?.isSome = true
  | [], _, _, refused => by cases refused
  | e :: es, error, ⟨here, there⟩, refused => by
    rw [Command.ofEachExpr_cons] at refused
    rcases bind_eq_error_iff.mp refused with first | ⟨command, _, later⟩
    · exact message_of_refused here first
    · rcases bind_eq_error_iff.mp later with others | ⟨commands, _, impossible⟩
      · exact messageEach_of_refused there others
      · cases impossible

end

/-- An expression is made a command exactly when it means something. The command holds its labels in
order, and no other expression means the same command. All other expressions are refused, with a
message if the left-hand sides can be written. -/
theorem ofExpr_iff_means :
    (∀ (e : Expr) (c : Command), Command.ofExpr e = .ok c ↔ e.Means c) ∧
    (∀ (e : Expr) (c : Command), Command.ofExpr e = .ok c → c.labels = e.labels) ∧
    (∀ (e f : Expr) (c : Command), Command.ofExpr e = .ok c → Command.ofExpr f = .ok c → e = f) ∧
    ∀ e : Expr, e.LeftsSigned → (¬ ∃ c, e.Means c) →
      ∃ error, Command.ofExpr e = .error error ∧ error.kind = .meaning := by
  refine ⟨fun e c => ⟨means_of_ofExpr, ofExpr_of_means⟩, ?_, ?_, ?_⟩
  · intro e c accepted
    exact labels_of_means (means_of_ofExpr accepted)
  · intro e f c first second
    rw [← expr_of_means (means_of_ofExpr first), expr_of_means (means_of_ofExpr second)]
  · intro e lefts meaningless
    cases read : Command.ofExpr e with
    | ok c => exact absurd ⟨c, means_of_ofExpr read⟩ meaningless
    | error error =>
      refine ⟨error, rfl, ?_⟩
      rw [MeaningError.kind, message_of_refused lefts read, if_pos rfl]

def nested : Expr :=
  .statements [chain "f" [(.define, "a"), (.arrow, "b"), (.arrow, "c")],
    .statements [.absent, chain "g" [(.compose, "f")]]]

/-- The left-hand side and the definition around it would be refused too, but the unknown operator
is met first. -/
def astray : Expr :=
  .operation .define (.label "f")
    (.operation (.other "CROSS") (.operation .arrow (.label "a") (.label "b")) (.label "c"))

theorem ofExpr_iff_means_nested :
    nested.Means (.batch [.single (.drawNamedChain "f" ["a", "b", "c"]),
      .batch [.single .skip, .single (.compose "g" "f")]]) ∧
    nested.labels = ["f", "a", "b", "c", "g", "f"] ∧
    astray.LeftsSigned ∧ (¬ ∃ c, astray.Means c) ∧
    Command.ofExpr astray = .error (.unknownOperator "CROSS") ∧
    (MeaningError.unknownOperator "CROSS").kind = .meaning := by
  have accepted : Command.ofExpr nested = .ok (.batch [.single (.drawNamedChain "f" ["a", "b", "c"]),
      .batch [.single .skip, .single (.compose "g" "f")]]) := by
    decide +kernel
  have refused : Command.ofExpr astray = .error (.unknownOperator "CROSS") := by
    decide +kernel
  have lefts : astray.LeftsSigned := by
    simp [astray, LeftsSigned, operators, Operator.sign?]
  have meaningless : ¬ ∃ c, astray.Means c := by
    rintro ⟨c, means⟩
    rw [(ofExpr_iff_means.1 astray c).mpr means] at refused
    cases refused
  refine ⟨(ofExpr_iff_means.1 _ _).mp accepted, ?_, lefts, meaningless, refused, ?_⟩
  · rw [← ofExpr_iff_means.2.1 _ _ accepted]
    decide +kernel
  · obtain ⟨error, same, isMeaning⟩ := ofExpr_iff_means.2.2.2 astray lefts meaningless
    rw [refused] at same
    cases same
    exact isMeaning

end ArrowGraph.Expr
