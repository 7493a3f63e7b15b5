import ArrowGraph.Proofs.Expr.Grammar

namespace ArrowGraph.Expr

open Token (lexeme significant)

variable {ts us : List Token} {e : Expr}

theorem Reads.congr {first second : Token} {rest others : List Token}
    (reads : Reads first rest e)
    (same : (first :: rest).map lexeme = (second :: others).map lexeme) :
    Reads second others e := by
  induction reads generalizing second others with
  | @label first isLabel =>
    obtain ⟨head, tail⟩ := List.cons.inj same
    obtain rfl := List.map_eq_nil_iff.mp tail.symm
    have text : first.text = second.text := congrArg Lexeme.text head
    rw [text]
    exact .label ((congrArg Lexeme.kind head).symm.trans isLabel)
  | @link first sign third rest operator right isLabel stands _ ih =>
    obtain ⟨head, tail⟩ := List.cons.inj same
    obtain ⟨sign', after, rfl, atSign, later⟩ := List.map_eq_cons_iff.mp tail.symm
    obtain ⟨third', rest', rfl, -, -⟩ := List.map_eq_cons_iff.mp later
    have text : first.text = second.text := congrArg Lexeme.text head
    have kind : sign'.kind = sign.kind := congrArg Lexeme.kind atSign
    rw [text]
    exact .link ((congrArg Lexeme.kind head).symm.trans isLabel) (kind ▸ stands) (ih later.symm)

theorem ofStatement_congr {first second : Token} {rest others : List Token}
    (same : (first :: rest).map lexeme = (second :: others).map lexeme)
    (accepted : ofStatement first rest = .ok e) : ofStatement second others = .ok e :=
  ((reads_of_ofStatement accepted).congr same).accepted

theorem splitOnP_map {α β : Type} (f : α → β) (p : β → Bool) (xs : List α) :
    (xs.map f).splitOnP p = (xs.splitOnP (p ∘ f)).map (List.map f) := by
  induction xs with
  | nil => rfl
  | cons x xs ih =>
    obtain ⟨head, others, shape⟩ := List.exists_cons_of_ne_nil (List.splitOnP_ne_nil (p ∘ f) xs)
    rw [List.map_cons, List.splitOnP_cons_eq_if_modifyHead, List.splitOnP_cons_eq_if_modifyHead,
      ih, shape]
    cases part : p (f x) <;> simp [part]

theorem map_lexeme_segments (ts : List Token) :
    (segments ts).map (fun part => (part.1 :: part.2).map lexeme) =
      ((ts.map lexeme).splitOnP fun l => l.kind = .semicolon).filter (· ≠ []) := by
  have pieces := congrArg (List.map (List.map lexeme)) (map_segments ts)
  rw [List.map_map] at pieces
  refine pieces.trans ?_
  rw [splitOnP_map, List.filter_map]
  congr 2
  funext piece
  simp

theorem segments_congr {α : Type} {R : Token × List Token → α → Prop}
    (carries : ∀ p q a, (p.1 :: p.2).map lexeme = (q.1 :: q.2).map lexeme → R p a → R q a)
    (same : ts.map lexeme = us.map lexeme) {as : List α}
    (related : List.Forall₂ R (segments ts) as) : List.Forall₂ R (segments us) as := by
  refine forall₂_of_map_eq carries ?_ related
  rw [map_lexeme_segments, map_lexeme_segments, same]

theorem exists_semicolon_congr (same : (significant ts).map lexeme = (significant us).map lexeme)
    (several : ∃ t ∈ ts, t.kind = .semicolon) : ∃ u ∈ us, u.kind = .semicolon := by
  obtain ⟨t, member, semicolon⟩ := several
  have inside : t.lexeme ∈ (significant us).map lexeme := by
    rw [← same]
    exact List.mem_map_of_mem (List.mem_filter.mpr ⟨member, by simp [semicolon]⟩)
  obtain ⟨u, among, alike⟩ := List.mem_map.mp inside
  exact ⟨u, List.mem_of_mem_filter among, (congrArg Lexeme.kind alike).trans semicolon⟩

theorem statements_ne_nil_congr (same : (significant ts).map lexeme = (significant us).map lexeme)
    (some_left : Token.statements ts ≠ []) : Token.statements us ≠ [] := by
  rw [← map_segments_significant, ne_eq, List.map_eq_nil_iff] at some_left ⊢
  intro none_left
  have lexemes := map_lexeme_segments (significant us)
  rw [none_left, ← same, ← map_lexeme_segments] at lexemes
  exact some_left (List.map_eq_nil_iff.mp lexemes.symm)

theorem read_congr (same : (significant ts).map lexeme = (significant us).map lexeme)
    (accepted : (read ts).result = .ok e) : (read us).result = .ok e := by
  rcases read_cases ts with ⟨several, reads⟩ | ⟨single, reads⟩
  · obtain ⟨some_left, es, rfl, each⟩ := (reads e).mp accepted
    rcases read_cases us with ⟨_, rereads⟩ | ⟨single, _⟩
    · refine (rereads _).mpr ⟨statements_ne_nil_congr same some_left, es, rfl, ?_⟩
      exact segments_congr (by exact fun _ _ _ alike => ofStatement_congr alike) same each
    · obtain ⟨u, member, semicolon⟩ := exists_semicolon_congr same several
      exact absurd semicolon (single u member)
  · obtain ⟨first, rest, tokens, accepted⟩ := (reads e).mp accepted
    rcases read_cases us with ⟨several, _⟩ | ⟨_, rereads⟩
    · obtain ⟨t, member, semicolon⟩ := exists_semicolon_congr same.symm several
      exact absurd semicolon (single t member)
    · rw [tokens] at same
      obtain ⟨second, others, shape, -, -⟩ := List.map_eq_cons_iff.mp same.symm
      rw [shape] at same
      exact (rereads e).mpr ⟨second, others, shape, ofStatement_congr same accepted⟩

end ArrowGraph.Expr
