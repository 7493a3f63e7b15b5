import ArrowGraph.Proofs.Expr.Grammar

/-! Lines out of form. In a statement labels and operators take turns, so each token has a place by
its kind. Of the first statement out of form the leftmost token is reported that is out of its
place. The tokens before it can still be made a line, and together with it they cannot. Where all
are in place, the statement breaks off after an operator. -/
namespace ArrowGraph

open Text (quote)

namespace Token

/-- Labels stand in the even places of a statement, and operators in the odd ones. -/
def OutOfPlace (place : Nat) (t : Token) : Prop :=
  if place % 2 = 0 then t.kind ≠ .label else t.kind.operator? = none

instance (place : Nat) (t : Token) : Decidable (OutOfPlace place t) :=
  inferInstanceAs (Decidable (if place % 2 = 0 then t.kind ≠ .label else t.kind.operator? = none))

def InPlace (ts : List Token) : Prop :=
  ∀ place t, ts[place]? = some t → ¬ OutOfPlace place t

/-- What stands between the semicolons of a line, white space left out. -/
def pieces (ts : List Token) : List (List Token) :=
  (significant ts).splitOnP fun t => t.kind = .semicolon

/-- What is told about the token `t` of a statement that does not fit in between `front` and
`back`. The statement is shown from the last place on where a label has to stand. -/
def placeMessage (front : List Token) (t : Token) (back : List Token) : String :=
  if front.length % 2 = 1 then
    "Cannot parse " ++ quote (joined (front.getLast?.toList ++ t :: back)) ++
      ": expected an operator at col " ++ toString t.column ++ ", got " ++ quote t.text
  else if back = [] then
    "Expected a label, got " ++ t.kind.name ++ " (" ++ quote t.text ++ ") at col " ++
      toString t.column
  else
    "Cannot parse " ++ quote (joined (t :: back)) ++ ": expected a label at col " ++
      toString t.column ++ ", got " ++ quote t.text

variable {t sign : Token} {ts us front back : List Token}

theorem outOfPlace_add_two {place : Nat} : OutOfPlace (place + 2) t ↔ OutOfPlace place t := by
  rw [OutOfPlace, OutOfPlace, Nat.add_mod_right]

theorem inPlace_nil : InPlace [] :=
  nofun

theorem inPlace_singleton : InPlace [t] ↔ t.kind = .label := by
  constructor
  · exact fun fits => not_not.mp (fits 0 t rfl)
  · rintro isLabel (_ | place) other here
    · obtain rfl := Option.some.inj here
      exact not_not.mpr isLabel
    · cases here

theorem inPlace_cons_cons :
    InPlace (t :: sign :: ts) ↔
      t.kind = .label ∧ sign.kind.operator?.isSome = true ∧ InPlace ts := by
  constructor
  · intro fits
    refine ⟨not_not.mp (fits 0 t rfl), Option.isSome_iff_ne_none.mpr (fits 1 sign rfl), ?_⟩
    exact fun place other here => outOfPlace_add_two.not.mp (fits (place + 2) other here)
  · rintro ⟨isLabel, isOperator, fits⟩ (_ | _ | place) other here
    · obtain rfl := Option.some.inj here
      exact not_not.mpr isLabel
    · obtain rfl := Option.some.inj here
      exact Option.isSome_iff_ne_none.mp isOperator
    · exact outOfPlace_add_two.not.mpr (fits place other here)

theorem InPlace.append_singleton (fits : InPlace front) (here : ¬ OutOfPlace front.length t) :
    InPlace (front ++ [t]) := by
  intro place other found
  rw [List.getElem?_append] at found
  split at found
  · exact fits place other found
  · obtain ⟨inside, rfl⟩ := List.getElem?_eq_some_iff.mp found
    have last : place = front.length := by
      simp at inside
      omega
    simpa [last] using here

theorem alternating_iff_inPlace : Alternating ts ↔ InPlace ts ∧ ts.length % 2 = 1 := by
  induction ts using List.twoStepInduction with
  | nil => exact ⟨nofun, nofun⟩
  | singleton t =>
    rw [inPlace_singleton]
    exact ⟨fun | .label isLabel => ⟨isLabel, rfl⟩, fun fits => .label fits.1⟩
  | cons_cons t sign ts ih _ =>
    have shorter : (t :: sign :: ts).length % 2 = ts.length % 2 := Nat.add_mod_right ts.length 2
    rw [inPlace_cons_cons, shorter]
    constructor
    · rintro (_ | ⟨isLabel, isOperator, rest⟩)
      obtain ⟨fits, odd⟩ := ih.mp rest
      exact ⟨⟨isLabel, isOperator, fits⟩, odd⟩
    · rintro ⟨⟨isLabel, isOperator, fits⟩, odd⟩
      exact .link isLabel isOperator (ih.mpr ⟨fits, odd⟩)

theorem placeMessage_cons_cons {other : Token} :
    placeMessage (t :: sign :: front) other back = placeMessage front other back := by
  have shorter : (t :: sign :: front).length % 2 = front.length % 2 :=
    Nat.add_mod_right front.length 2
  rw [placeMessage, placeMessage, shorter]
  split
  · rename_i odd
    obtain ⟨left, others, rfl⟩ := List.exists_cons_of_length_pos (by omega : 0 < front.length)
    rw [List.getLast?_cons_cons, List.getLast?_cons_cons]
  · rfl

section

variable {p : Token → Bool} {part next : List Token} {before after : List (List Token)}

theorem splitOnP_append (left : ts.splitOnP p = before ++ [part])
    (right : us.splitOnP p = next :: after) :
    (ts ++ us).splitOnP p = before ++ (part ++ next) :: after := by
  induction ts generalizing before part with
  | nil =>
    obtain ⟨rfl, rfl⟩ : before = [] ∧ part = [] := by
      cases before <;> simp_all
    exact right
  | cons c ts ih =>
    obtain ⟨head, others, shape⟩ := List.exists_cons_of_ne_nil (List.splitOnP_ne_nil p ts)
    rw [List.splitOnP_cons_eq_if_modifyHead, shape] at left
    rw [List.cons_append, List.splitOnP_cons_eq_if_modifyHead]
    split at left
    · cases before with
      | nil => cases left
      | cons first before =>
        obtain ⟨rfl, same⟩ := List.cons.inj left
        rw [if_pos ‹_›, ih (shape.trans same)]
        rfl
    · rw [if_neg ‹_›]
      cases before with
      | nil =>
        obtain ⟨rfl, rfl⟩ := List.cons.inj left
        rw [ih (show ts.splitOnP p = [] ++ [head] from shape)]
        rfl
      | cons first before =>
        obtain ⟨rfl, rfl⟩ := List.cons.inj left
        rw [ih (show ts.splitOnP p = (head :: before) ++ [part] from shape)]
        rfl

theorem exists_append_of_splitOnP
    (cut : ts.splitOnP p = before ++ (front ++ t :: back) :: after) :
    ∃ us vs, ts = us ++ t :: vs ∧ p t = false ∧ us.splitOnP p = before ++ [front] := by
  induction ts generalizing before front with
  | nil => cases before <;> cases front <;> simp at cut
  | cons c ts ih =>
    obtain ⟨head, others, shape⟩ := List.exists_cons_of_ne_nil (List.splitOnP_ne_nil p ts)
    rw [List.splitOnP_cons_eq_if_modifyHead, shape] at cut
    split at cut
    · cases before with
      | nil => cases front <;> cases cut
      | cons first before =>
        obtain ⟨rfl, same⟩ := List.cons.inj cut
        obtain ⟨us, vs, rfl, inside, line⟩ := ih (shape.trans same)
        refine ⟨c :: us, vs, rfl, inside, ?_⟩
        rw [List.splitOnP_cons_eq_if_modifyHead, if_pos ‹_›, line]
        rfl
    · rename_i noCut
      cases before with
      | nil =>
        cases front with
        | nil =>
          obtain ⟨rfl, rfl⟩ := List.cons.inj (List.cons.inj cut).1
          exact ⟨[], ts, rfl, eq_false_of_ne_true noCut, rfl⟩
        | cons first front =>
          obtain ⟨same, rfl⟩ := List.cons.inj cut
          obtain ⟨rfl, rfl⟩ := List.cons.inj same
          have shorter : ts.splitOnP p = [] ++ (front ++ t :: back) :: others := shape
          obtain ⟨us, vs, rfl, inside, line⟩ := ih shorter
          refine ⟨c :: us, vs, rfl, inside, ?_⟩
          rw [List.splitOnP_cons_eq_if_modifyHead, if_neg noCut, line]
          rfl
      | cons first before =>
        obtain ⟨rfl, rfl⟩ := List.cons.inj cut
        have shorter : ts.splitOnP p = (head :: before) ++ (front ++ t :: back) :: after := shape
        obtain ⟨us, vs, rfl, inside, line⟩ := ih shorter
        refine ⟨c :: us, vs, rfl, inside, ?_⟩
        rw [List.splitOnP_cons_eq_if_modifyHead, if_neg noCut, line]
        rfl

end

section

variable {piece next : List Token} {prior after : List (List Token)}

theorem statements_eq_filter (ts : List Token) :
    statements ts = (pieces ts).filter (· ≠ []) :=
  rfl

theorem mem_statements : piece ∈ statements ts ↔ piece ∈ pieces ts ∧ piece ≠ [] := by
  rw [statements_eq_filter, List.mem_filter, decide_eq_true_eq]

theorem pieces_append (line : pieces ts = prior ++ [piece]) (rest : pieces us = next :: after) :
    pieces (ts ++ us) = prior ++ (piece ++ next) :: after := by
  rw [pieces, significant_append]
  exact splitOnP_append line rest

theorem pieces_cons (noBlank : t.kind ≠ .blank) (noCut : t.kind ≠ .semicolon)
    (rest : pieces ts = next :: after) : pieces (t :: ts) = (t :: next) :: after := by
  have kept : significant (t :: ts) = t :: significant ts :=
    List.filter_cons_of_pos (decide_eq_true noBlank)
  rw [pieces, kept, List.splitOnP_cons_eq_if_modifyHead, decide_eq_false noCut,
    if_neg Bool.false_ne_true, ← pieces, rest]
  rfl

theorem pieces_ne_nil (ts : List Token) : pieces ts ≠ [] :=
  List.splitOnP_ne_nil _ _

theorem exists_mem_statements (line : pieces ts = prior ++ [front]) (noBlank : t.kind ≠ .blank)
    (noCut : t.kind ≠ .semicolon) (more : List Token) :
    ∃ next, front ++ t :: next ∈ statements (ts ++ t :: more) := by
  obtain ⟨next, after, rest⟩ := List.exists_cons_of_ne_nil (pieces_ne_nil more)
  refine ⟨next, mem_statements.mpr ⟨?_, by simp⟩⟩
  rw [pieces_append line (pieces_cons noBlank noCut rest)]
  exact List.mem_append_right _ (List.mem_cons_self ..)

theorem statements_ne_nil (member : t ∈ ts) (noBlank : t.kind ≠ .blank)
    (noCut : t.kind ≠ .semicolon) : statements ts ≠ [] := by
  obtain ⟨line, others, rfl⟩ := List.append_of_mem member
  have last := List.dropLast_append_getLast (pieces_ne_nil line)
  obtain ⟨next, inside⟩ := exists_mem_statements last.symm noBlank noCut others
  exact List.ne_nil_of_mem inside

theorem exists_append_of_pieces
    (cut : pieces ts = prior ++ (front ++ t :: back) :: after) :
    ∃ line others, ts = line ++ t :: others ∧ t.kind ≠ .blank ∧ t.kind ≠ .semicolon ∧
      pieces line = prior ++ [front] := by
  obtain ⟨us, vs, whole, noCut, line⟩ := exists_append_of_splitOnP cut
  obtain ⟨start, stop, rfl, rfl, rest⟩ := List.filter_eq_append_iff.mp whole
  obtain ⟨blanks, others, rfl, left_out, kept, _⟩ := List.filter_eq_cons_iff.mp rest
  refine ⟨start ++ blanks, others, (List.append_assoc ..).symm, of_decide_eq_true kept,
    of_decide_eq_false noCut, ?_⟩
  have nothing : significant blanks = [] := List.filter_eq_nil_iff.mpr left_out
  rw [pieces, significant_append, nothing, List.append_nil]
  exact line

end

end Token

namespace Expr

open Token

variable {first t : Token} {ts rest front back : List Token} {prior after : List (List Token)}
  {error : ParseError}

/-- The fault of a statement is the first token out of its place, or that it breaks off. -/
theorem fault_of_ofStatement (refused : ofStatement first rest = .error error) :
    (∃ front t back, first :: rest = front ++ t :: back ∧ InPlace front ∧
      OutOfPlace front.length t ∧ error.message = placeMessage front t back) ∨
    InPlace (first :: rest) ∧ ∃ front left operator, first :: rest = front ++ [left, operator] ∧
      operator.kind.operator?.isSome = true ∧ error = .rightMissing left operator := by
  fun_induction ofStatement first rest with
  | case1 => cases refused
  | case2 first noLabel =>
    cases refused
    exact .inl ⟨[], first, [], rfl, inPlace_nil, noLabel, rfl⟩
  | case3 first second noLabel =>
    cases refused
    exact .inl ⟨[], first, [second], rfl, inPlace_nil, noLabel, rfl⟩
  | case4 first second isLabel noOperator =>
    cases refused
    have fits := inPlace_singleton.mpr (not_not.mp isLabel)
    exact .inl ⟨[first], second, [], rfl, fits, noOperator, rfl⟩
  | case5 first second isLabel operator stands =>
    cases refused
    have isOperator : second.kind.operator?.isSome = true := stands ▸ rfl
    have fits := inPlace_cons_cons.mpr ⟨not_not.mp isLabel, isOperator, inPlace_nil⟩
    exact .inr ⟨fits, [], first, second, rfl, isOperator, rfl⟩
  | case6 first second third rest noLabel =>
    cases refused
    exact .inl ⟨[], first, second :: third :: rest, rfl, inPlace_nil, noLabel, rfl⟩
  | case7 first second third rest isLabel noOperator =>
    cases refused
    have fits := inPlace_singleton.mpr (not_not.mp isLabel)
    exact .inl ⟨[first], second, third :: rest, rfl, fits, noOperator, rfl⟩
  | case8 first second third rest isLabel operator stands ih =>
    have isOperator : second.kind.operator?.isSome = true := stands ▸ rfl
    have add_link {ts : List Token} (fits : InPlace ts) : InPlace (first :: second :: ts) :=
      inPlace_cons_cons.mpr ⟨not_not.mp isLabel, isOperator, fits⟩
    rcases ih (map_eq_error_iff.mp refused) with
      ⟨front, t, back, same, fits, misplaced, told⟩ | ⟨fits, front, left, last, same, ends, rfl⟩
    · refine .inl ⟨first :: second :: front, t, back, by rw [same]; rfl, add_link fits,
        outOfPlace_add_two.mpr misplaced, ?_⟩
      rw [placeMessage_cons_cons, told]
    · exact .inr ⟨add_link fits, first :: second :: front, left, last, by rw [same]; rfl, ends, rfl⟩

/-- A refused line is refused for its first statement that is refused. -/
theorem exists_refused_of_read (meaningful : ∃ t ∈ ts, t.kind ≠ .blank ∧ t.kind ≠ .semicolon)
    (refused : (read ts).result = .error error) :
    ∃ before part after, segments (significant ts) = before ++ part :: after ∧
      (∀ other ∈ before, ∃ e, ofStatement other.1 other.2 = .ok e) ∧
      ofStatement part.1 part.2 = .error error := by
  obtain ⟨t, member, noBlank, noCut⟩ := meaningful
  have some_left : segments (significant ts) ≠ [] := by
    have nonempty := statements_ne_nil member noBlank noCut
    rwa [← map_segments_significant, ne_eq, List.map_eq_nil_iff] at nonempty
  rw [read] at refused
  by_cases several : ∃ t ∈ significant ts, t.kind = .semicolon
  · rw [ofTokens_of_semicolon several, if_neg some_left] at refused
    exact mapM_error_iff.mp (map_eq_error_iff.mp refused)
  · push Not at several
    cases tokens : significant ts with
    | nil =>
      rw [tokens] at some_left
      exact absurd rfl some_left
    | cons first rest =>
      rw [tokens] at several
      rw [tokens, ofTokens_of_no_semicolon several] at refused
      exact ⟨[], (first, rest), [], segments_of_no_semicolon several, List.forall_mem_nil _,
        refused⟩

theorem exists_refused_piece (meaningful : ∃ t ∈ ts, t.kind ≠ .blank ∧ t.kind ≠ .semicolon)
    (refused : (read ts).result = .error error) :
    ∃ prior first rest after, pieces ts = prior ++ (first :: rest) :: after ∧
      (∀ other ∈ prior, other ≠ [] → Alternating other) ∧
      ofStatement first rest = .error error := by
  obtain ⟨before, part, after, parts, accepted, here⟩ := exists_refused_of_read meaningful refused
  have split := map_segments_significant ts
  rw [parts, List.map_append, List.map_cons, statements_eq_filter] at split
  obtain ⟨start, stop, cut, kept, later⟩ := List.filter_eq_append_iff.mp split.symm
  obtain ⟨empty, others, rfl, skipped, -, -⟩ := List.filter_eq_cons_iff.mp later
  refine ⟨start ++ empty, part.1, part.2, others, by rw [cut, List.append_assoc], ?_, here⟩
  intro other member some_left
  rcases List.mem_append.mp member with inside | inside
  · have counted : other ∈ start.filter (· ≠ []) :=
      List.mem_filter.mpr ⟨inside, decide_eq_true some_left⟩
    rw [kept] at counted
    obtain ⟨earlier, among, rfl⟩ := List.mem_map.mp counted
    obtain ⟨e, read⟩ := accepted earlier among
    exact (reads_of_ofStatement read).chainOf.1
  · exact absurd (decide_eq_true some_left) (skipped other inside)

theorem inGrammar_of_pieces {last : List Token} (cut : pieces ts = prior ++ [last])
    (form : ∀ other ∈ prior, other ≠ [] → Alternating other) (ends : Alternating last) :
    InGrammar ts := by
  have some_left : last ≠ [] := by
    rintro rfl
    cases ends
  constructor
  · refine List.ne_nil_of_mem (mem_statements.mpr ⟨?_, some_left⟩)
    rw [cut]
    exact List.mem_append_right _ (List.mem_singleton_self _)
  · intro other member
    obtain ⟨inside, nonempty⟩ := mem_statements.mp member
    rw [cut] at inside
    rcases List.mem_append.mp inside with earlier | here
    · exact form other earlier nonempty
    · exact List.mem_singleton.mp here ▸ ends

theorem exists_read_append (line : pieces ts = prior ++ [front])
    (form : ∀ other ∈ prior, other ≠ [] → Alternating other) (fits : InPlace front) :
    ∃ more e, (read (ts ++ more)).result = .ok e := by
  by_cases odd : front.length % 2 = 1
  · have ends := alternating_iff_inPlace.mpr ⟨fits, odd⟩
    refine ⟨[], read_of_inGrammar ?_⟩
    rw [List.append_nil]
    exact inGrammar_of_pieces line form ends
  · let label : Token := { kind := .label, text := "a" }
    have here : ¬ OutOfPlace front.length label := by
      rw [OutOfPlace, if_pos (Nat.mod_two_ne_one.mp odd)]
      exact not_not.mpr rfl
    have longer : (front ++ [label]).length % 2 = 1 := by
      simp only [List.length_append, List.length_singleton]
      omega
    have ends := alternating_iff_inPlace.mpr ⟨fits.append_singleton here, longer⟩
    exact ⟨[label], read_of_inGrammar (inGrammar_of_pieces (pieces_append line rfl) form ends)⟩

theorem not_read_append (line : pieces ts = prior ++ [front]) (noBlank : t.kind ≠ .blank)
    (noCut : t.kind ≠ .semicolon) (misplaced : OutOfPlace front.length t) (more : List Token)
    (e : Expr) : (read (ts ++ t :: more)).result ≠ .ok e := by
  intro accepted
  obtain ⟨next, member⟩ := exists_mem_statements line noBlank noCut more
  have form := (inGrammar_of_read accepted).2 _ member
  exact (alternating_iff_inPlace.mp form).1 front.length t (by simp) misplaced

/-- The message is about the first statement out of form; empty ones are skipped. It names the first
token of that statement that is out of its place, up to which the line could still have been
completed, or says that nothing comes after the last operator. -/
theorem read_error_leftmost (meaningful : ∃ t ∈ ts, t.kind ≠ .blank ∧ t.kind ≠ .semicolon)
    (refused : (read ts).result = .error error) :
    ∃ prior piece after, pieces ts = prior ++ piece :: after ∧
      (∀ other ∈ prior, other ≠ [] → Alternating other) ∧ piece ≠ [] ∧ ¬ Alternating piece ∧
      ((∃ front t back, piece = front ++ t :: back ∧
          InPlace front ∧ OutOfPlace front.length t ∧
          error.message = placeMessage front t back ∧
          ∃ line others, ts = line ++ t :: others ∧ pieces line = prior ++ [front] ∧
            (∃ more e, (read (line ++ more)).result = .ok e) ∧
            ∀ more e, (read (line ++ t :: more)).result ≠ .ok e) ∨
        InPlace piece ∧ ∃ front left operator, piece = front ++ [left, operator] ∧
          operator.kind.operator?.isSome = true ∧
          error.message = "Cannot parse " ++ quote (joined [left, operator]) ++
            ": missing right-hand side after " ++ quote operator.text) := by
  obtain ⟨prior, first, rest, after, cut, form, here⟩ := exists_refused_piece meaningful refused
  have outOfForm : ¬ Alternating (first :: rest) := by
    intro alternating
    obtain ⟨_, _, e, same, accepted⟩ := accepted_of_alternating alternating
    obtain ⟨rfl, rfl⟩ := List.cons.inj same
    cases here.symm.trans accepted
  refine ⟨prior, first :: rest, after, cut, form, List.cons_ne_nil _ _, outOfForm, ?_⟩
  rcases fault_of_ofStatement here with
    ⟨front, t, back, same, fits, misplaced, told⟩ | ⟨fits, front, left, operator, same, ends, rfl⟩
  · rw [same] at cut
    obtain ⟨line, others, whole, noBlank, noCut, before⟩ := exists_append_of_pieces cut
    exact .inl ⟨front, t, back, same, fits, misplaced, told, line, others, whole, before,
      exists_read_append before form fits, not_read_append before noBlank noCut misplaced⟩
  · exact .inr ⟨fits, front, left, operator, same, ends, rfl⟩

def stray : List Token :=
  [⟨.semicolon, ";", 9⟩, ⟨.label, "a", 5⟩, ⟨.blank, "", 0⟩, ⟨.label, "b", -3⟩, ⟨.semicolon, ";", 2⟩,
    ⟨.dot, ".", 1⟩]

/-- The second label is blamed, where an operator has to stand. -/
theorem read_error_leftmost_stray :
    (∃ t ∈ stray, t.kind ≠ .blank ∧ t.kind ≠ .semicolon) ∧
    (∃ error, (read stray).result = .error error ∧
      error.message = "Cannot parse 'a b': expected an operator at col -3, got 'b'") ∧
    ∃ line others, stray = line ++ ⟨.label, "b", -3⟩ :: others ∧
      (∃ more e, (read (line ++ more)).result = .ok e) ∧
      ∀ more e, (read (line ++ ⟨.label, "b", -3⟩ :: more)).result ≠ .ok e := by
  have meaningful : ∃ t ∈ stray, t.kind ≠ .blank ∧ t.kind ≠ .semicolon := by decide
  have refused : (read stray).result =
      .error (.operatorExpected ⟨.label, "a", 5⟩ ⟨.label, "b", -3⟩ []) := by
    decide +kernel
  have parts : pieces stray =
      [[], [⟨.label, "a", 5⟩, ⟨.label, "b", -3⟩], [⟨.dot, ".", 1⟩]] := by
    decide +kernel
  refine ⟨meaningful, ⟨_, refused, by decide +kernel⟩, ?_⟩
  obtain ⟨prior, piece, after, cut, form, nonempty, -, fault⟩ :=
    read_error_leftmost meaningful refused
  rw [parts] at cut
  rcases prior with _ | ⟨first, _ | ⟨second, prior⟩⟩
  · obtain ⟨rfl, -⟩ := List.cons.inj cut
    exact absurd rfl nonempty
  · obtain ⟨rfl, -⟩ := List.cons.inj (List.cons.inj cut).2
    rcases fault with ⟨front, t, back, same, -, misplaced, -, line, others, whole, -, both⟩ | fault
    · rcases front with _ | ⟨_, _ | ⟨_, _⟩⟩
      · obtain ⟨rfl, -⟩ := List.cons.inj same
        exact absurd misplaced (by decide)
      · obtain ⟨rfl, -⟩ := List.cons.inj (List.cons.inj same).2
        exact ⟨line, others, whole, both⟩
      · simp at same
    · exact absurd (by decide) (fault.1 1 ⟨.label, "b", -3⟩ rfl)
  · obtain ⟨rfl, -⟩ := List.cons.inj (List.cons.inj cut).2
    have inForm := form _ (List.mem_cons_of_mem _ (List.mem_cons_self ..)) (List.cons_ne_nil _ _)
    cases (alternating_iff_inPlace.mp inForm).2

end Expr
end ArrowGraph
