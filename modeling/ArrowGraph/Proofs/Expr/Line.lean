import ArrowGraph.Expr.OfTokens
import ArrowGraph.Proofs.Token.Spelled

namespace ArrowGraph

def IsLabel (word : String) : Prop :=
  TokenKind.label.Spells word.toList

-- The characters of the word are asked, not all characters that there are.
instance : DecidablePred IsLabel := fun word =>
  have : Decidable (∀ c ∈ word.toList, Token.isLabelChar c = true) := List.decidableBAll _ _
  inferInstanceAs (Decidable (word.toList ≠ [] ∧ ∀ c ∈ word.toList, Token.isLabelChar c = true))

theorem IsLabel.not_mem {word : String} (legal : IsLabel word) {c : Char}
    (other : Token.isLabelChar c = false) : c ∉ word.toList := by
  intro member
  rw [legal.2 c member] at other
  cases other

theorem IsLabel.ne_empty {word : String} (legal : IsLabel word) : word ≠ "" := by
  rintro rfl
  exact legal.1 rfl

namespace Expr

inductive IsStatement : Expr → Prop where
  | label {name : String} (legal : IsLabel name) : IsStatement (.label name)
  | operation {operator : Operator} {name : String} {right : Expr}
      (known : operator.sign?.isSome = true) (legal : IsLabel name) (rest : IsStatement right) :
      IsStatement (.operation operator (.label name) right)

/-- The expressions of lines. -/
inductive IsLine : Expr → Prop where
  | single {e : Expr} (statement : IsStatement e) : IsLine e
  | list {es : List Expr} (nonempty : es ≠ []) (each : ∀ e ∈ es, IsStatement e) :
      IsLine (.statements es)

/-- The tokens are a statement, and the expression says what it says. -/
inductive Reads : Token → List Token → Expr → Prop where
  | label {first : Token} (isLabel : first.kind = .label) : Reads first [] (.label first.text)
  | link {first second third : Token} {rest : List Token} {operator : Operator} {right : Expr}
      (isLabel : first.kind = .label) (stands : second.kind.operator? = some operator)
      (others : Reads third rest right) :
      Reads first (second :: third :: rest) (.operation operator (.label first.text) right)

theorem reads_of_ofStatement {first : Token} {rest : List Token} {e : Expr}
    (accepted : ofStatement first rest = .ok e) : Reads first rest e := by
  fun_induction ofStatement first rest generalizing e with
  | case1 first isLabel =>
    cases accepted
    exact .label isLabel
  | case2 | case3 | case4 | case5 | case6 | case7 => cases accepted
  | case8 first second third rest notNot operator stands ih =>
    obtain ⟨right, tail, rfl⟩ := map_eq_ok_iff.mp accepted
    exact .link (not_not.mp notNot) stands (ih tail)

theorem Reads.accepted {first : Token} {rest : List Token} {e : Expr} (reads : Reads first rest e) :
    ofStatement first rest = .ok e := by
  induction reads with
  | label isLabel => rw [ofStatement, if_pos isLabel]
  | link isLabel stands _ ih => simp [ofStatement, isLabel, stands, ih]

theorem Reads.isStatement {first : Token} {rest : List Token} {e : Expr}
    (reads : Reads first rest e) (spelled : ∀ t ∈ first :: rest, t.kind.Spells t.text.toList) :
    IsStatement e := by
  have legal {t : Token} (isLabel : t.kind = .label) (spelling : t.kind.Spells t.text.toList) :
      IsLabel t.text := by
    rwa [isLabel] at spelling
  induction reads with
  | label isLabel => exact .label (legal isLabel (spelled _ (List.mem_cons_self ..)))
  | link isLabel stands _ ih =>
    obtain ⟨here, there⟩ := List.forall_mem_cons.mp spelled
    refine .operation (isSome_sign?_of_operator? stands) (legal isLabel here) ?_
    exact ih (List.forall_mem_cons.mp there).2

theorem mem_of_mem_splitOnP {p : Token → Bool} {ts piece : List Token}
    (member : piece ∈ ts.splitOnP p) : ∀ t ∈ piece, t ∈ ts := by
  induction ts generalizing piece with
  | nil =>
    obtain rfl : piece = [] := by simpa using member
    exact fun _ impossible => impossible
  | cons first rest ih =>
    obtain ⟨head, others, shape⟩ := List.exists_cons_of_ne_nil (List.splitOnP_ne_nil p rest)
    have inHead := ih (shape ▸ List.mem_cons_self ..)
    have inOthers (other : List Token) (later : other ∈ others) :=
      ih (shape ▸ List.mem_cons_of_mem head later)
    rw [List.splitOnP_cons_eq_if_modifyHead, shape] at member
    intro t inside
    split at member
    · rcases List.mem_cons.mp member with rfl | later
      · cases inside
      · exact List.mem_cons_of_mem _ (ih (shape ▸ later) t inside)
    · rcases List.mem_cons.mp member with rfl | later
      · rcases List.mem_cons.mp inside with rfl | inside
        · exact List.mem_cons_self ..
        · exact List.mem_cons_of_mem _ (inHead t inside)
      · exact List.mem_cons_of_mem _ (inOthers _ later t inside)

theorem mem_of_mem_segments {ts : List Token} {part : Token × List Token}
    (member : part ∈ segments ts) : ∀ t ∈ part.1 :: part.2, t ∈ ts := by
  obtain ⟨piece, inside, shape⟩ := List.mem_filterMap.mp member
  cases piece with
  | nil => cases shape
  | cons first rest =>
    obtain rfl := Option.some.inj shape
    exact mem_of_mem_splitOnP inside

theorem segments_append {t : Token} (semicolon : t.kind = .semicolon) (ts us : List Token) :
    segments (ts ++ t :: us) = segments ts ++ segments us := by
  rw [segments, List.splitOnP_append_cons ts us (decide_eq_true semicolon), List.filterMap_append]
  rfl

theorem segments_of_no_semicolon {first : Token} {rest : List Token}
    (single : ∀ t ∈ first :: rest, t.kind ≠ .semicolon) :
    segments (first :: rest) = [(first, rest)] := by
  rw [segments, List.splitOnP_eq_singleton fun t member => decide_eq_false (single t member)]
  rfl

theorem ofTokens_of_semicolon {ts : List Token} (several : ∃ t ∈ ts, t.kind = .semicolon) :
    ofTokens ts =
      if segments ts = [] then .error (.noStatements ts)
      else .statements <$> (segments ts).mapM fun part => ofStatement part.1 part.2 := by
  obtain ⟨t, member, semicolon⟩ := several
  have parted : ts.any (·.kind = .semicolon) = true :=
    List.any_eq_true.mpr ⟨t, member, decide_eq_true semicolon⟩
  cases ts with
  | nil => cases member
  | cons first rest =>
    rw [ofTokens, if_pos parted]
    cases segments (first :: rest) <;> rfl

theorem ofTokens_of_no_semicolon {first : Token} {rest : List Token}
    (single : ∀ t ∈ first :: rest, t.kind ≠ .semicolon) :
    ofTokens (first :: rest) = ofStatement first rest := by
  have whole : (first :: rest).any (·.kind = .semicolon) = false :=
    List.any_eq_false.mpr fun t member => by simpa using single t member
  rw [ofTokens, whole, if_neg Bool.false_ne_true]

theorem ofTokens_cases {ts : List Token} {e : Expr} (accepted : ofTokens ts = .ok e) :
    (∃ first rest, ts = first :: rest ∧ ofStatement first rest = .ok e) ∨
      ∃ es, e = .statements es ∧ es ≠ [] ∧
        List.Forall₂ (fun part e => ofStatement part.1 part.2 = .ok e) (segments ts) es := by
  cases ts with
  | nil => cases accepted
  | cons first rest =>
    rw [ofTokens] at accepted
    split at accepted
    · split at accepted
      · cases accepted
      · rename_i parts shape
        obtain ⟨es, each, rfl⟩ := map_eq_ok_iff.mp accepted
        have related := mapM_ok_iff.mp each
        refine .inr ⟨es, rfl, ?_, related⟩
        rintro rfl
        exact shape (List.forall₂_nil_right_iff.mp related)
    · exact .inl ⟨first, rest, rfl, accepted⟩

/-- What tokens are read as is the expression of a line. -/
theorem isLine_of_ofTokens {ts : List Token} {e : Expr}
    (spelled : ∀ t ∈ ts, t.kind.Spells t.text.toList) (accepted : ofTokens ts = .ok e) :
    IsLine e := by
  rcases ofTokens_cases accepted with ⟨first, rest, rfl, read⟩ | ⟨es, rfl, nonempty, related⟩
  · exact .single ((reads_of_ofStatement read).isStatement spelled)
  · refine .list nonempty fun e member => ?_
    obtain ⟨part, inside, read⟩ := exists_of_forall₂ related member
    exact (reads_of_ofStatement read).isStatement fun t segment =>
      spelled t (mem_of_mem_segments inside t segment)

end Expr
end ArrowGraph
