import ArrowGraph.Proofs.Expr.Chain
import ArrowGraph.Proofs.Expr.Line

namespace ArrowGraph

theorem TokenKind.ne_label_of_operator? {kind : TokenKind} {operator : Operator}
    (stands : kind.operator? = some operator) : kind ≠ .label := by
  rintro rfl
  cases stands

namespace Token

/-- `LABEL (operator LABEL)*` -/
inductive Alternating : List Token → Prop where
  | label {t : Token} (isLabel : t.kind = .label) : Alternating [t]
  | link {t sign : Token} {ts : List Token} (isLabel : t.kind = .label)
      (isOperator : sign.kind.operator?.isSome = true) (rest : Alternating ts) :
      Alternating (t :: sign :: ts)

theorem labels_link {t sign : Token} {ts : List Token} {operator : Operator}
    (isLabel : t.kind = .label) (stands : sign.kind.operator? = some operator) :
    labels (t :: sign :: ts) = t.text :: labels ts := by
  simp [labels, isLabel, TokenKind.ne_label_of_operator? stands]

theorem operators_link {t sign : Token} {ts : List Token} {operator : Operator}
    (isLabel : t.kind = .label) (stands : sign.kind.operator? = some operator) :
    operators (t :: sign :: ts) = operator :: operators ts := by
  have noOperator : t.kind.operator? = none := by
    rw [isLabel]
    rfl
  simp [operators, noOperator, stands]

/-- The tokens between semicolons, white space left out, as far as there are any. -/
def statements (ts : List Token) : List (List Token) :=
  ((ts.filter fun t => t.kind ≠ .blank).splitOnP fun t => t.kind = .semicolon).filter (· ≠ [])

def InGrammar (ts : List Token) : Prop :=
  statements ts ≠ [] ∧ ∀ piece ∈ statements ts, Alternating piece

end Token

namespace Expr

open Token (Alternating InGrammar significant)

/-- The expression is a chain of just the labels and operators of the tokens. -/
structure ChainOf (ts : List Token) (e : Expr) : Prop where
  leaning : ∃ first links, e = chain first links
  labels : e.labels = Token.labels ts
  operators : e.operators = Token.operators ts

theorem ChainOf.not_list {ts : List Token} {es : List Expr} : ¬ ChainOf ts (.statements es) := by
  intro chained
  obtain ⟨first, links, same⟩ := chained.leaning
  cases links <;> cases same

theorem chainOf_label {t : Token} (isLabel : t.kind = .label) : ChainOf [t] (.label t.text) := by
  refine ⟨⟨t.text, [], rfl⟩, ?_, ?_⟩
  · simp [labels, Token.labels, isLabel]
  · simp [operators, Token.operators, isLabel, TokenKind.operator?]

theorem ChainOf.link {t sign : Token} {ts : List Token} {operator : Operator} {right : Expr}
    (chained : ChainOf ts right) (isLabel : t.kind = .label)
    (stands : sign.kind.operator? = some operator) :
    ChainOf (t :: sign :: ts) (.operation operator (.label t.text) right) := by
  obtain ⟨⟨first, links, rfl⟩, sameLabels, sameOperators⟩ := chained
  refine ⟨⟨t.text, (operator, first) :: links, rfl⟩, ?_, ?_⟩
  · rw [Token.labels_link isLabel stands, ← sameLabels]
    rfl
  · rw [Token.operators_link isLabel stands, ← sameOperators]
    rfl

theorem Reads.chainOf {first : Token} {rest : List Token} {e : Expr}
    (reads : Reads first rest e) :
    Alternating (first :: rest) ∧ ChainOf (first :: rest) e := by
  induction reads with
  | label isLabel => exact ⟨.label isLabel, chainOf_label isLabel⟩
  | link isLabel stands _ ih =>
    obtain ⟨alternating, chained⟩ := ih
    exact ⟨.link isLabel (stands ▸ rfl) alternating, chained.link isLabel stands⟩

theorem accepted_of_alternating {ts : List Token} (alternating : Alternating ts) :
    ∃ first rest e, ts = first :: rest ∧ ofStatement first rest = .ok e := by
  induction alternating with
  | @label t isLabel => exact ⟨t, [], .label t.text, rfl, by simp [ofStatement, isLabel]⟩
  | @link t sign ts isLabel isOperator _ ih =>
    obtain ⟨third, rest, right, rfl, accepted⟩ := ih
    obtain ⟨operator, stands⟩ := Option.isSome_iff_exists.mp isOperator
    refine ⟨t, sign :: third :: rest, .operation operator (.label t.text) right, rfl, ?_⟩
    simp [ofStatement, isLabel, stands, accepted]

theorem map_segments (ts : List Token) :
    (segments ts).map (fun part => part.1 :: part.2) =
      (ts.splitOnP fun t => t.kind = .semicolon).filter (· ≠ []) := by
  rw [segments]
  induction ts.splitOnP fun t => t.kind = .semicolon with
  | nil => rfl
  | cons piece pieces ih =>
    cases piece with
    | nil => simpa using ih
    | cons first rest => simpa using ih

theorem map_segments_significant (ts : List Token) :
    (segments (significant ts)).map (fun part => part.1 :: part.2) = Token.statements ts :=
  map_segments (significant ts)

theorem segments_significant {ts rest : List Token} {first : Token}
    (single : ∀ t ∈ ts, t.kind ≠ .semicolon) (meaningful : significant ts = first :: rest) :
    segments (significant ts) = [(first, rest)] := by
  rw [meaningful]
  refine segments_of_no_semicolon fun t member => ?_
  exact single t (List.mem_of_mem_filter (meaningful ▸ member))

theorem statements_of_no_semicolon {ts : List Token}
    (single : ∀ t ∈ ts, t.kind ≠ .semicolon) :
    Token.statements ts = if significant ts = [] then [] else [significant ts] := by
  have whole : ∀ t ∈ significant ts, decide (t.kind = .semicolon) = false := by
    intro t member
    exact decide_eq_false (single t (List.mem_of_mem_filter member))
  rw [← map_segments_significant, map_segments, List.splitOnP_eq_singleton whole]
  by_cases none_left : significant ts = []
  · simp [none_left]
  · simp [none_left]

theorem read_cases (ts : List Token) :
    ((∃ t ∈ ts, t.kind = .semicolon) ∧ ∀ e, (read ts).result = .ok e ↔
      Token.statements ts ≠ [] ∧ ∃ es, e = .statements es ∧
        List.Forall₂ (fun part e => ofStatement part.1 part.2 = .ok e)
          (segments (significant ts)) es) ∨
    ((∀ t ∈ ts, t.kind ≠ .semicolon) ∧ ∀ e, (read ts).result = .ok e ↔
      ∃ first rest, significant ts = first :: rest ∧ ofStatement first rest = .ok e) := by
  by_cases several : ∃ t ∈ ts, t.kind = .semicolon
  · refine .inl ⟨several, fun e => ?_⟩
    have inside : ∃ t ∈ significant ts, t.kind = .semicolon := by
      obtain ⟨t, member, semicolon⟩ := several
      exact ⟨t, List.mem_filter.mpr ⟨member, by simp [semicolon]⟩, semicolon⟩
    rw [read, ofTokens_of_semicolon inside, ← map_segments_significant, ne_eq, List.map_eq_nil_iff]
    split
    · rename_i none_left
      simp [none_left]
    · rename_i some_left
      simp only [some_left, not_false_eq_true, true_and, ← mapM_ok_iff]
      cases (segments (significant ts)).mapM fun part => ofStatement part.1 part.2 with
      | error _ => simp [Functor.map, Except.map]
      | ok es => simp [Functor.map, Except.map, eq_comm]
  · push Not at several
    refine .inr ⟨several, fun e => ?_⟩
    rw [read]
    cases tokens : significant ts with
    | nil => simp [ofTokens]
    | cons first rest =>
      have single : ∀ t ∈ first :: rest, t.kind ≠ .semicolon := by
        intro t member
        exact several t (List.mem_of_mem_filter (tokens ▸ member))
      simp [ofTokens_of_no_semicolon single]

theorem chainOf_of_parts {parts : List (Token × List Token)} {es : List Expr}
    (accepted : List.Forall₂ (fun part e => ofStatement part.1 part.2 = .ok e) parts es) :
    List.Forall₂ (fun piece e => Alternating piece ∧ ChainOf piece e)
      (parts.map fun part => part.1 :: part.2) es := by
  rw [List.forall₂_map_left_iff]
  exact accepted.imp fun _ _ read => (reads_of_ofStatement read).chainOf

theorem exists_of_alternating {parts : List (Token × List Token)}
    (each : ∀ part ∈ parts, Alternating (part.1 :: part.2)) :
    ∃ es, List.Forall₂ (fun part e => ofStatement part.1 part.2 = .ok e) parts es := by
  induction parts with
  | nil => exact ⟨[], .nil⟩
  | cons part parts ih =>
    obtain ⟨here, others⟩ := List.forall_mem_cons.mp each
    obtain ⟨first, rest, e, same, accepted⟩ := accepted_of_alternating here
    obtain ⟨rfl, rfl⟩ := List.cons.inj same
    obtain ⟨es, later⟩ := ih others
    exact ⟨e :: es, .cons accepted later⟩

theorem inGrammar_of_read {ts : List Token} {e : Expr} (accepted : (read ts).result = .ok e) :
    InGrammar ts := by
  rcases read_cases ts with ⟨_, reads⟩ | ⟨single, reads⟩
  · obtain ⟨some_left, es, _, related⟩ := (reads e).mp accepted
    refine ⟨some_left, fun piece member => ?_⟩
    rw [← map_segments_significant] at member
    obtain ⟨e, _, alternating, _⟩ := exists_of_forall₂ (chainOf_of_parts related).flip member
    exact alternating
  · obtain ⟨first, rest, tokens, read⟩ := (reads e).mp accepted
    rw [InGrammar, statements_of_no_semicolon single, tokens, if_neg (List.cons_ne_nil _ _)]
    refine ⟨List.cons_ne_nil _ _, List.forall_mem_singleton.mpr ?_⟩
    exact (reads_of_ofStatement read).chainOf.1

theorem read_of_inGrammar {ts : List Token} (legal : InGrammar ts) :
    ∃ e, (read ts).result = .ok e := by
  rcases read_cases ts with ⟨_, reads⟩ | ⟨single, reads⟩
  · obtain ⟨some_left, each⟩ := legal
    rw [← map_segments_significant, List.forall_mem_map] at each
    obtain ⟨es, related⟩ := exists_of_alternating each
    exact ⟨.statements es, (reads _).mpr ⟨some_left, es, rfl, related⟩⟩
  · rw [InGrammar, statements_of_no_semicolon single] at legal
    split at legal
    · exact absurd rfl legal.1
    · obtain ⟨first, rest, e, tokens, read⟩ :=
        accepted_of_alternating (List.forall_mem_singleton.mp legal.2)
      exact ⟨e, (reads e).mpr ⟨first, rest, tokens, read⟩⟩

/-- What is read is a list of chains, one for each statement, when there are semicolons, and else
one chain. -/
theorem chains_of_read {ts : List Token} {e : Expr} (accepted : (read ts).result = .ok e) :
    ((∃ es, e = .statements es ∧ List.Forall₂ ChainOf (Token.statements ts) es) ↔
      ∃ t ∈ ts, t.kind = .semicolon) ∧
    ((∀ t ∈ ts, t.kind ≠ .semicolon) → ChainOf (significant ts) e) := by
  rcases read_cases ts with ⟨several, reads⟩ | ⟨single, reads⟩
  · obtain ⟨_, es, rfl, related⟩ := (reads e).mp accepted
    have chained := (chainOf_of_parts related).imp fun _ _ both => both.2
    rw [map_segments_significant] at chained
    refine ⟨⟨fun _ => several, fun _ => ⟨es, rfl, chained⟩⟩, fun single => ?_⟩
    obtain ⟨t, member, semicolon⟩ := several
    exact absurd semicolon (single t member)
  · obtain ⟨first, rest, tokens, read⟩ := (reads e).mp accepted
    have chained := (reads_of_ofStatement read).chainOf.2
    rw [tokens]
    refine ⟨⟨?_, ?_⟩, fun _ => chained⟩
    · rintro ⟨es, rfl, _⟩
      exact absurd chained ChainOf.not_list
    · rintro ⟨t, member, semicolon⟩
      exact absurd semicolon (single t member)

/-- Exactly the lines of the grammar are read, and their labels and operators are kept in order. All
others are refused, and either way white space is all that is taken from the tokens. -/
theorem read_iff_inGrammar (ts : List Token) :
    ((∃ e, (read ts).result = .ok e) ↔ InGrammar ts) ∧
    ((∃ error, (read ts).result = .error error) ↔ ¬ InGrammar ts) ∧
    (∀ e, (read ts).result = .ok e →
      ((∃ es, e = .statements es ∧ List.Forall₂ ChainOf (Token.statements ts) es) ↔
        ∃ t ∈ ts, t.kind = .semicolon) ∧
      ((∀ t ∈ ts, t.kind ≠ .semicolon) → ChainOf (ts.filter fun t => t.kind ≠ .blank) e)) ∧
    (read ts).tokens = ts.filter fun t => t.kind ≠ .blank := by
  have accepts : (∃ e, (read ts).result = .ok e) ↔ InGrammar ts :=
    ⟨fun ⟨_, accepted⟩ => inGrammar_of_read accepted, read_of_inGrammar⟩
  refine ⟨accepts, ?_, fun e accepted => chains_of_read accepted, rfl⟩
  rw [← accepts]
  cases (read ts).result with
  | error error => simp
  | ok e => simp

def untidy : List Token :=
  [⟨.semicolon, ";", 4⟩, ⟨.label, "", 9⟩, ⟨.colon, "is", -2⟩, ⟨.blank, "", 0⟩, ⟨.label, "a", 9⟩,
    ⟨.route, "--", 1⟩, ⟨.label, "b", 0⟩, ⟨.semicolon, "", 7⟩, ⟨.semicolon, ";", 7⟩, ⟨.label, "c", 3⟩]

/-- Two statements are read, and two empty ones are not; with one more sign the line is refused. -/
theorem read_iff_inGrammar_untidy :
    InGrammar untidy ∧
    (read untidy).result =
      .ok (.statements [chain "" [(.define, "a"), (.route, "b")], chain "c" []]) ∧
    List.Forall₂ ChainOf (Token.statements untidy)
      [chain "" [(.define, "a"), (.route, "b")], chain "c" []] ∧
    ¬ InGrammar (untidy ++ [⟨.dot, ".", 5⟩]) := by
  have accepted : (read untidy).result =
      .ok (.statements [chain "" [(.define, "a"), (.route, "b")], chain "c" []]) := by
    decide +kernel
  have refused : (read (untidy ++ [⟨.dot, ".", 5⟩])).result =
      .error (.rightMissing ⟨.label, "c", 3⟩ ⟨.dot, ".", 5⟩) := by
    decide +kernel
  refine ⟨(read_iff_inGrammar untidy).1.mp ⟨_, accepted⟩, accepted, ?_,
    (read_iff_inGrammar _).2.1.mp ⟨_, refused⟩⟩
  have several : ∃ t ∈ untidy, t.kind = .semicolon := ⟨_, List.mem_cons_self .., rfl⟩
  obtain ⟨es, same, chained⟩ := ((read_iff_inGrammar untidy).2.2.1 _ accepted).1.mpr several
  rwa [Expr.statements.inj same]

end Expr
end ArrowGraph
