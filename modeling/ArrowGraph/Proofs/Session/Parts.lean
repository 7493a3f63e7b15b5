import ArrowGraph.Proofs.Command.Meaning
import ArrowGraph.Proofs.Expr.Spacing
import ArrowGraph.Proofs.Session.Rendering
import ArrowGraph.Proofs.Session.Step
import ArrowGraph.Proofs.Token.Cut

/-! Lines of several parts. What stands before a semicolon and what stands after it are scanned each
on its own, at whatever column they start. So texts that are joined by semicolons ask for the
commands that each of them asks for, and what the line comes to is what they come to one after
another. -/
namespace ArrowGraph

open Token (firstLexeme scan scanFrom significant)

def Text.isBlankLine (text : String) : Bool :=
  text.toList.all Text.isBlank

namespace Token

def later (n : Nat) (t : Token) : Token :=
  { t with column := t.column + n }

theorem scanFrom_later {column : Nat} {cs : List Char} {ts : List Token}
    (scanned : scanFrom column cs = .ok ts) (n : Nat) :
    scanFrom (column + n) cs = .ok (ts.map (later n)) := by
  fun_induction scanFrom column cs generalizing ts with
  | case1 column cs empty =>
    cases scanned
    rw [scanFrom, if_pos empty]
    rfl
  | case2 => cases scanned
  | case3 column cs _ kind lexeme rest found ih =>
    obtain ⟨us, tail, rfl⟩ := map_eq_ok_iff.mp scanned
    have others := ih tail
    rw [Nat.add_right_comm] at others
    rw [scanFrom_cons found, others]
    simp [later, Functor.map, Except.map]

theorem firstLexeme_semicolon {kind : TokenKind} {cs lexeme rest : List Char}
    (found : firstLexeme cs = some (kind, lexeme, rest)) (ds : List Char) :
    firstLexeme (cs ++ ';' :: ds) = some (kind, lexeme, rest ++ ';' :: ds) := by
  rw [← (split_of_firstLexeme found).1, List.append_assoc]
  refine firstLexeme_append (spells_of_firstLexeme found) fun c next => ?_
  cases rest with
  | nil =>
    obtain rfl : ';' = c := by simpa using next
    cases kind <;> rfl
  | cons => exact stops_of_firstLexeme found c next

theorem scanFrom_semicolon {column : Nat} {cs ds : List Char} {ts us : List Token}
    (before : scanFrom column cs = .ok ts) (after : scanFrom (column + cs.length + 1) ds = .ok us) :
    ∃ sep, sep.kind = .semicolon ∧ scanFrom column (cs ++ ';' :: ds) = .ok (ts ++ sep :: us) := by
  fun_induction scanFrom column cs generalizing ts with
  | case1 column cs empty =>
    obtain rfl := List.isEmpty_iff.mp empty
    cases before
    refine ⟨⟨.semicolon, ";", column⟩, rfl, ?_⟩
    have found : firstLexeme (';' :: ds) = some (.semicolon, [';'], ds) := rfl
    have others : scanFrom (column + [';'].length) ds = .ok us := after
    rw [List.nil_append, scanFrom_cons found, others]
    rfl
  | case2 => cases before
  | case3 column cs _ kind lexeme rest found ih =>
    obtain ⟨vs, tail, rfl⟩ := map_eq_ok_iff.mp before
    have whole := congrArg List.length (split_of_firstLexeme found).1
    rw [List.length_append] at whole
    rw [← whole, ← Nat.add_assoc] at after
    obtain ⟨sep, isSemicolon, others⟩ := ih tail after
    refine ⟨sep, isSemicolon, ?_⟩
    rw [scanFrom_cons (firstLexeme_semicolon found ds), others]
    rfl

/-- The statements among the tokens ask for the commands, each for one. -/
def Ask (ts : List Token) (cs : List Command) : Prop :=
  List.Forall₂
    (fun part c => ∃ e, Expr.ofStatement part.1 part.2 = .ok e ∧ Command.ofExpr e = .ok c)
    (Expr.segments (significant ts)) cs

variable {ts us : List Token} {cs ds : List Command}

theorem Ask.append (before : Ask ts cs) (after : Ask us ds) {sep : Token}
    (semicolon : sep.kind = .semicolon) : Ask (ts ++ sep :: us) (cs ++ ds) := by
  have meaningful : significant (ts ++ sep :: us) = significant ts ++ sep :: significant us := by
    simp [significant, semicolon]
  rw [Ask, meaningful, Expr.segments_append semicolon]
  exact List.rel_append before after

theorem significant_later (n : Nat) (ts : List Token) :
    significant (ts.map (later n)) = (significant ts).map (later n) := by
  rw [significant, List.filter_map]
  rfl

theorem Ask.congr (ask : Ask ts cs)
    (same : (significant ts).map lexeme = (significant us).map lexeme) : Ask us cs := by
  refine Expr.segments_congr ?_ same ask
  rintro p q c alike ⟨e, accepted, meant⟩
  exact ⟨e, Expr.ofStatement_congr alike accepted, meant⟩

theorem Ask.later (ask : Ask ts cs) (n : Nat) : Ask (ts.map (later n)) cs := by
  refine ask.congr ?_
  rw [significant_later, List.map_map]
  rfl

theorem ask_nil (silent : significant ts = []) : Ask ts [] := by
  rw [Ask, silent]
  exact .nil

theorem ask_of_isBlankLine {text : String} (blank : Text.isBlankLine text = true) :
    ∃ ts, scan text = .ok ts ∧ Ask ts [] := by
  rw [Text.isBlankLine, List.all_eq_true] at blank
  by_cases empty : text.toList = []
  · refine ⟨[], ?_, ask_nil rfl⟩
    rw [scan, empty, scanFrom]
    rfl
  · have spelled : ∀ l ∈ [Lexeme.mk .blank text], l.Spelled :=
      List.forall_mem_singleton.mpr ⟨empty, blank⟩
    have scanned := Lexeme.scanFrom_written 1 spelled (.singleton _)
    rw [Lexeme.written_cons, Lexeme.written_nil, List.append_nil] at scanned
    exact ⟨_, scanned, ask_nil rfl⟩

theorem no_semicolon_of_scan {text : String} (scanned : scan text = .ok ts)
    (plain : ';' ∉ text.toList) : ∀ t ∈ ts, t.kind ≠ .semicolon := by
  intro t member semicolon
  have spelled := spells_of_scanFrom scanned t member
  rw [semicolon] at spelled
  refine plain ?_
  rw [← flatMap_of_scanFrom scanned, List.mem_flatMap]
  exact ⟨t, member, by rw [spelled]; exact List.mem_singleton_self _⟩

end Token

namespace Command

open Token (Ask later)

theorem ask_of_ofLine {text : String} {c : Command} (plain : ';' ∉ text.toList)
    (determined : (ofLine text).command = .ok c) : ∃ ts, scan text = .ok ts ∧ Ask ts [c] := by
  obtain ⟨ts, e, scanned, read, meant⟩ := ofLine_eq_ok_iff.mp determined
  have single := Token.no_semicolon_of_scan scanned plain
  refine ⟨ts, scanned, ?_⟩
  rcases Expr.read_cases ts with ⟨⟨t, member, semicolon⟩, _⟩ | ⟨_, reads⟩
  · exact absurd semicolon (single t member)
  · obtain ⟨first, rest, meaningful, accepted⟩ := (reads e).mp read
    rw [Ask, Expr.segments_significant single meaningful]
    exact .cons ⟨e, accepted, meant⟩ .nil

theorem not_isBlankLine_of_ofLine {text : String} {c : Command}
    (determined : (ofLine text).command = .ok c) : Text.isBlankLine text = false := by
  obtain ⟨ts, e, scanned, read, _⟩ := ofLine_eq_ok_iff.mp determined
  rw [← Bool.not_eq_true]
  intro blank
  obtain ⟨us, rescanned, silent⟩ := Token.ask_of_isBlankLine blank
  obtain rfl := Except.ok.inj (scanned.symm.trans rescanned)
  refine (Expr.inGrammar_of_read read).1 ?_
  rw [← Expr.map_segments_significant, List.forall₂_nil_right_iff.mp silent]
  rfl

/-- A line with some statements asks for their commands as a batch, or for the only one. -/
theorem ofLine_of_ask {line : String} {ts : List Token} {cs : List Command}
    (scanned : scan line = .ok ts) (ask : Ask ts cs) (nonempty : cs ≠ []) :
    ∃ c, (ofLine line).command = .ok c ∧ (c = .batch cs ∨ cs = [c]) := by
  obtain ⟨es, accepted, meant⟩ := forall₂_between ask
  rcases Expr.read_cases ts with ⟨_, reads⟩ | ⟨single, reads⟩
  · have some_left : Token.statements ts ≠ [] := by
      rw [← Expr.map_segments_significant, ne_eq, List.map_eq_nil_iff]
      intro none_left
      rw [Ask, none_left, List.forall₂_nil_left_iff] at ask
      exact nonempty ask
    have read := (reads _).mpr ⟨some_left, es, rfl, accepted⟩
    refine ⟨.batch cs, ofLine_eq_ok_iff.mpr ⟨ts, _, scanned, read, ?_⟩, .inl rfl⟩
    rw [ofExpr_statements, Expr.ofEachExpr_of_means (meant.imp fun _ _ => Expr.means_of_ofExpr)]
    rfl
  · cases meaningful : significant ts with
    | nil =>
      rw [Ask, meaningful] at ask
      exact absurd (List.forall₂_nil_left_iff.mp ask) nonempty
    | cons first rest =>
      rw [Ask, Expr.segments_significant single meaningful] at ask
      cases ask with
      | @cons _ c _ _ asked none_left =>
        cases none_left
        obtain ⟨e, accepted, meant⟩ := asked
        have read := (reads e).mpr ⟨first, rest, meaningful, accepted⟩
        exact ⟨c, ofLine_eq_ok_iff.mpr ⟨ts, e, scanned, read, meant⟩, .inr rfl⟩

/-- The commands of the texts that are not blank, in their order. -/
def OfTexts (texts : List String) (cs : List Command) : Prop :=
  List.Forall₂ (fun text c => (ofLine text).command = .ok c)
    (texts.filter fun text => !Text.isBlankLine text) cs

theorem ask_text {text : String} (plain : ';' ∉ text.toList)
    (legal : Text.isBlankLine text = true ∨ ∃ c, (ofLine text).command = .ok c) :
    ∃ ts cs, scan text = .ok ts ∧ Ask ts cs ∧ OfTexts [text] cs := by
  by_cases blank : Text.isBlankLine text = true
  · obtain ⟨ts, scanned, ask⟩ := Token.ask_of_isBlankLine blank
    refine ⟨ts, [], scanned, ask, ?_⟩
    simp [OfTexts, blank]
  · obtain ⟨c, determined⟩ := legal.resolve_left blank
    obtain ⟨ts, scanned, ask⟩ := ask_of_ofLine plain determined
    refine ⟨ts, [c], scanned, ask, ?_⟩
    simp [OfTexts, blank, determined]

/-- The commands of a joined line are those of its texts, from whichever column it is scanned. -/
theorem ask_joined {texts : List String} (plain : ∀ text ∈ texts, ';' ∉ text.toList)
    (legal : ∀ text ∈ texts, Text.isBlankLine text = true ∨ ∃ c, (ofLine text).command = .ok c)
    (nonempty : texts ≠ []) (n : Nat) :
    ∃ ts cs, scanFrom (1 + n) (";".intercalate texts).toList = .ok ts ∧ Ask ts cs ∧
      OfTexts texts cs := by
  induction texts generalizing n with
  | nil => exact absurd rfl nonempty
  | cons text texts ih =>
    obtain ⟨plainHere, plainThere⟩ := List.forall_mem_cons.mp plain
    obtain ⟨legalHere, legalThere⟩ := List.forall_mem_cons.mp legal
    obtain ⟨ts, cs, scanned, ask, here⟩ := ask_text plainHere legalHere
    have moved := Token.scanFrom_later scanned n
    cases texts with
    | nil =>
      refine ⟨ts.map (later n), cs, ?_, ask.later n, here⟩
      simpa [String.toList_intercalate] using moved
    | cons next texts =>
      obtain ⟨us, ds, rest, others, there⟩ :=
        ih plainThere legalThere (List.cons_ne_nil _ _) (n + (text.toList.length + 1))
      rw [← Nat.add_assoc, ← Nat.add_assoc] at rest
      obtain ⟨sep, semicolon, whole⟩ := Token.scanFrom_semicolon moved rest
      refine ⟨_, cs ++ ds, ?_, (ask.later n).append others semicolon, ?_⟩
      · simpa [String.toList_intercalate] using whole
      · rw [OfTexts, ← List.singleton_append, List.filter_append]
        exact List.rel_append here there

theorem ofLine_joined {texts : List String} (plain : ∀ text ∈ texts, ';' ∉ text.toList)
    (legal : ∀ text ∈ texts, Text.isBlankLine text = true ∨ ∃ c, (ofLine text).command = .ok c)
    (some_told : ∃ text ∈ texts, ∃ c, (ofLine text).command = .ok c) :
    ∃ cs c, OfTexts texts cs ∧ (ofLine (";".intercalate texts)).command = .ok c ∧
      (c = .batch cs ∨ cs = [c]) := by
  obtain ⟨text, member, _, determined⟩ := some_told
  obtain ⟨ts, cs, scanned, ask, each⟩ := ask_joined plain legal (List.ne_nil_of_mem member) 0
  have nonempty : cs ≠ [] := by
    rintro rfl
    have tells := not_isBlankLine_of_ofLine determined
    have inside : text ∈ texts.filter fun text => !Text.isBlankLine text :=
      List.mem_filter.mpr ⟨member, by rw [tells]; rfl⟩
    rw [List.forall₂_nil_right_iff.mp each] at inside
    cases inside
  obtain ⟨c, whole, shape⟩ := ofLine_of_ask scanned ask nonempty
  exact ⟨cs, c, each, whole, shape⟩

theorem apply_eq_batch {c : Command} {cs : List Command} (shape : c = .batch cs ∨ cs = [c])
    (g : Graph) :
    (c.apply g).graph = ((batch cs).apply g).graph ∧
      (c.apply g).outcome = ((batch cs).apply g).outcome := by
  rcases shape with rfl | rfl
  · exact ⟨rfl, rfl⟩
  · obtain ⟨graph, outcome⟩ := apply_singleton g c
    exact ⟨graph.symm, outcome.symm⟩

end Command

namespace Graph

/-- Evaluate lines one after another, up to the first that breaks down: the graph in the end, and
what the lines came to. -/
def evaluateInTurn (g : Graph) : List String → Graph × Except Failure (List Report)
  | [] => (g, .ok [])
  | line :: lines =>
    let first := g.evaluate line
    match first.outcome with
    | .error failure => (first.graph, .error failure)
    | .ok report =>
      let others := evaluateInTurn first.graph lines
      (others.1, (report :: ·) <$> others.2)

theorem evaluateInTurn_eq {lines : List String} {cs : List Command}
    (each : List.Forall₂ (fun line c => (Command.ofLine line).command = .ok c) lines cs)
    (g : Graph) :
    g.evaluateInTurn lines =
      ((Command.applyEach g cs).graph, (Command.applyEach g cs).outcome.mapError .apply) := by
  induction each generalizing g with
  | nil => rfl
  | @cons line c lines cs determined _ ih =>
    obtain ⟨graph, outcome⟩ := evaluate_of_ofLine determined g
    rw [evaluateInTurn, Command.applyEach, outcome, graph]
    cases done : (c.apply g).outcome with
    | error _ => rfl
    | ok report =>
      simp only [Except.mapError, ih]
      cases (Command.applyEach (c.apply g).graph cs).outcome <;> rfl

/-- Joined by semicolons, texts that are blank or ask for a command of their own do to every graph
what those that are not blank do to it one after another, up to the first that breaks down. -/
theorem line_does_its_parts {texts : List String} (plain : ∀ text ∈ texts, ';' ∉ text.toList)
    (legal : ∀ text ∈ texts,
      Text.isBlankLine text = true ∨ ∃ c, (Command.ofLine text).command = .ok c)
    (some_told : ∃ text ∈ texts, ∃ c, (Command.ofLine text).command = .ok c) (g : Graph) :
    let parts := g.evaluateInTurn (texts.filter fun text => !Text.isBlankLine text)
    (g.evaluate (";".intercalate texts)).graph = parts.1 ∧
      (g.evaluate (";".intercalate texts)).outcome = Report.merge <$> parts.2 := by
  obtain ⟨cs, c, each, whole, shape⟩ := Command.ofLine_joined plain legal some_told
  obtain ⟨graph, outcome⟩ := evaluate_of_ofLine whole g
  obtain ⟨sameGraph, sameOutcome⟩ := Command.apply_eq_batch shape g
  intro parts
  have inTurn : parts = _ := evaluateInTurn_eq each g
  rw [inTurn, graph, outcome, sameGraph, sameOutcome]
  refine ⟨rfl, ?_⟩
  rw [Command.apply]
  cases (Command.applyEach g cs).outcome <;> rfl

/-- The second of four parts fails, and the third breaks down, so that the last is not drawn. -/
theorem line_does_its_parts_midway :
    (empty.evaluateInTurn ["f: a -> b", "f -> c", "f . f", "k -> l"]).1 =
        ⟨[⟨"a", "b", some "f"⟩]⟩ ∧
      (empty.evaluate "f: a -> b; ;;f -> c;f . f;k -> l").graph = ⟨[⟨"a", "b", some "f"⟩]⟩ ∧
      (empty.evaluate "f: a -> b; ;;f -> c;f . f;k -> l").outcome =
        .error (.apply (.mismatch ⟨⟨"a", "b", some "f"⟩, ⟨"a", "b", some "f"⟩⟩)) := by
  have plain : ∀ text ∈ ["f: a -> b", " ", "", "f -> c", "f . f", "k -> l"],
      ';' ∉ text.toList := by
    decide +kernel
  have first : (Command.ofLine "f: a -> b").command = .ok (.single (.drawNamed "f" "a" "b")) := by
    decide +kernel
  have second : (Command.ofLine "f -> c").command = .ok (.single (.draw "f" "c")) := by
    decide +kernel
  have third : (Command.ofLine "f . f").command = .ok (.single (.compose "f" "f")) := by
    decide +kernel
  have fourth : (Command.ofLine "k -> l").command = .ok (.single (.draw "k" "l")) := by
    decide +kernel
  have legal : ∀ text ∈ ["f: a -> b", " ", "", "f -> c", "f . f", "k -> l"],
      Text.isBlankLine text = true ∨ ∃ c, (Command.ofLine text).command = .ok c := by
    simp only [List.forall_mem_cons]
    exact ⟨.inr ⟨_, first⟩, .inl (by decide +kernel), .inl rfl, .inr ⟨_, second⟩, .inr ⟨_, third⟩,
      .inr ⟨_, fourth⟩, List.forall_mem_nil _⟩
  have line : ";".intercalate ["f: a -> b", " ", "", "f -> c", "f . f", "k -> l"] =
      "f: a -> b; ;;f -> c;f . f;k -> l" := by
    decide +kernel
  have told : ["f: a -> b", " ", "", "f -> c", "f . f", "k -> l"].filter
      (fun text => !Text.isBlankLine text) = ["f: a -> b", "f -> c", "f . f", "k -> l"] := by
    decide +kernel
  have inTurn : empty.evaluateInTurn ["f: a -> b", "f -> c", "f . f", "k -> l"] =
      (⟨[⟨"a", "b", some "f"⟩]⟩,
        .error (.apply (.mismatch ⟨⟨"a", "b", some "f"⟩, ⟨"a", "b", some "f"⟩⟩))) := by
    decide +kernel
  obtain ⟨graph, outcome⟩ :=
    line_does_its_parts plain legal ⟨_, List.mem_cons_self .., _, first⟩ empty
  rw [line, told, inTurn] at graph outcome
  exact ⟨congrArg Prod.fst inTurn, graph, outcome⟩

end Graph
end ArrowGraph
