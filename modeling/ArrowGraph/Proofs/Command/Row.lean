import ArrowGraph.Proofs.Command.Causes

namespace ArrowGraph

namespace Graph

variable {g h : Graph} {pair : String × String} {pairs before : List (String × String)}
  {names : List String} {clash : Mismatch}

def compositeEnds? (g : Graph) (pair : String × String) : Option (String × String) :=
  match g.arrow? pair.1, g.arrow? pair.2 with
  | some outer, some inner =>
    if inner.target = outer.source then some (inner.source, outer.target) else none
  | _, _ => none

def link (g : Graph) (ends : String × String) : Graph :=
  if ends ∈ g.edges then g else g.add ⟨ends.1, ends.2, none⟩

/-- The graph with the composites of these pairs. All names are looked up in the graph of the
start. -/
def linkPairs (g : Graph) (pairs : List (String × String)) : Graph :=
  (pairs.filterMap g.compositeEnds?).foldl link g

theorem arrow?_link (g : Graph) (ends : String × String) (asked : String) :
    (g.link ends).arrow? asked = g.arrow? asked := by
  unfold link
  split
  · rfl
  · simp [arrow?, List.find?_append]

theorem arrow?_linkPairs (g : Graph) (pairs : List (String × String)) (asked : String) :
    (g.linkPairs pairs).arrow? asked = g.arrow? asked := by
  rw [linkPairs]
  generalize pairs.filterMap g.compositeEnds? = ends
  induction ends generalizing g with
  | nil => rfl
  | cons first ends ih => rw [List.foldl_cons, ih, arrow?_link]

theorem mem_names_linkPairs {n : String} : n ∈ (g.linkPairs pairs).names ↔ n ∈ g.names := by
  rw [← not_iff_not, ← arrow?_eq_none_iff, ← arrow?_eq_none_iff, arrow?_linkPairs]

theorem clashing_linkPairs : (g.linkPairs pairs).Clashing pair ↔ g.Clashing pair := by
  constructor
  · rintro ⟨clash, clashes⟩
    exact ⟨clash, clashes.congr (arrow?_linkPairs g pairs)⟩
  · rintro ⟨clash, clashes⟩
    exact ⟨clash, clashes.congr fun asked => (arrow?_linkPairs g pairs asked).symm⟩

theorem compositeEnds?_linkPairs :
    (g.linkPairs pairs).compositeEnds? = g.compositeEnds? := by
  funext pair
  simp only [compositeEnds?, arrow?_linkPairs]

theorem linkPairs_cons (g : Graph) (pair : String × String) (pairs : List (String × String)) :
    g.linkPairs (pair :: pairs) = (g.linkPairs [pair]).linkPairs pairs := by
  rw [linkPairs.eq_def (g.linkPairs [pair]), compositeEnds?_linkPairs, linkPairs, linkPairs,
    ← List.singleton_append, List.filterMap_append, List.foldl_append]

theorem WellFormed.draw_objects {source target : String} (legal : g.WellFormed)
    (isSource : source ∈ g.ends) (isTarget : target ∈ g.ends) :
    (g.draw source target).1 = g.link (source, target) ∧
      (g.draw source target).2.isSuccess = true := by
  constructor
  · simp only [draw, legal.hasName_end isSource, legal.hasName_end isTarget, Bool.or_self,
      Bool.false_eq_true, if_false]
    cases found : g.edge? source target with
    | none =>
      have absent : (source, target) ∉ g.edges := edge?_eq_none_iff.mp found
      rw [link, if_neg absent]
    | some a =>
      obtain ⟨member, starts, ends⟩ := edge?_some found
      have edge : (source, target) ∈ g.edges := edge_iff.mpr ⟨a, member, starts, ends⟩
      rw [link, if_pos edge]
  · rw [isSuccess_draw_iff]
    exact ⟨fun isName => legal.apart source isName isSource,
      fun isName => legal.apart target isName isTarget⟩

theorem mem_ends_of_arrow? {n : String} {a : Arrow} (found : g.arrow? n = some a) :
    a.source ∈ g.ends ∧ a.target ∈ g.ends :=
  mem_ends_of_edge (arrow?_edge found)

theorem WellFormed.composeInto_pair (legal : g.WellFormed) (meet : ¬ g.Clashing pair) :
    ∃ report, composeInto draw g pair.1 pair.2 = ⟨g.linkPairs [pair], .ok report⟩ ∧
      (report.ok = true ↔ pair.1 ∈ g.names ∧ pair.2 ∈ g.names) := by
  obtain ⟨outer, inner⟩ := pair
  have outcome := composeInto_outcome none g outer inner
  have drawing : drawAs none = draw := rfl
  rw [drawing] at outcome
  generalize composeInto draw g outer inner = effect at outcome ⊢
  cases outcome with
  | missing absent =>
    have nothing : g.compositeEnds? (outer, inner) = none := by
      rcases absent with absent | absent <;> simp [compositeEnds?, absent]
    refine ⟨g.missing [outer, inner], by simp [linkPairs, nothing], ?_⟩
    simp [missing_ok_iff]
  | @apart a b foundOuter foundInner gap =>
    exact absurd ⟨⟨a, b⟩, foundOuter, foundInner, gap⟩ meet
  | @drawn a b foundOuter foundInner joined =>
    have ends : g.compositeEnds? (outer, inner) = some (b.source, a.target) := by
      simp [compositeEnds?, foundOuter, foundInner, joined]
    obtain ⟨graph, success⟩ := legal.draw_objects (mem_ends_of_arrow? foundInner).1
      (mem_ends_of_arrow? foundOuter).2
    refine ⟨(g.draw b.source a.target).2.report, ?_, ?_⟩
    · simp only [linkPairs, List.filterMap_cons_some ends, List.filterMap_nil, List.foldl_cons,
        List.foldl_nil, ← graph]
      rfl
    · have known (n : String) {c : Arrow} (found : g.arrow? n = some c) : n ∈ g.names :=
        mem_names.mpr ⟨c, arrow?_some found⟩
      simp [Notice.report, success, known outer foundOuter, known inner foundInner]

theorem mem_ends_of_compositeEnds? {ends : String × String}
    (found : g.compositeEnds? pair = some ends) : ends.1 ∈ g.ends ∧ ends.2 ∈ g.ends := by
  unfold compositeEnds? at found
  split at found
  · rename_i outer inner foundOuter foundInner
    split at found
    · obtain rfl := Option.some.inj found
      exact ⟨(mem_ends_of_arrow? foundInner).1, (mem_ends_of_arrow? foundOuter).2⟩
    · cases found
  · cases found

theorem WellFormed.linkPair (legal : g.WellFormed) (pair : String × String) :
    (g.linkPairs [pair]).WellFormed := by
  cases found : g.compositeEnds? pair with
  | none => simpa [linkPairs, found] using legal
  | some ends =>
    obtain ⟨isSource, isTarget⟩ := mem_ends_of_compositeEnds? found
    have drawn : (g.draw ends.1 ends.2).1 = g.linkPairs [pair] := by
      simpa [linkPairs, found] using (legal.draw_objects isSource isTarget).1
    rw [← drawn]
    exact legal.attempt ⟨ends.1, ends.2, none⟩

theorem WellFormed.linkPairs (legal : g.WellFormed) (pairs : List (String × String)) :
    (g.linkPairs pairs).WellFormed := by
  induction pairs generalizing g with
  | nil => exact legal
  | cons pair pairs ih =>
    rw [linkPairs_cons]
    exact ih (legal.linkPair pair)

theorem WellFormed.composeEach_pairs (legal : g.WellFormed)
    (meet : ∀ pair ∈ pairs, ¬ g.Clashing pair) :
    ∃ reports, g.composeEach pairs = (g.linkPairs pairs, .ok reports) ∧
      ((∀ r ∈ reports, r.ok = true) ↔ ∀ pair ∈ pairs, pair.1 ∈ g.names ∧ pair.2 ∈ g.names) := by
  induction pairs generalizing g with
  | nil => exact ⟨[], rfl, by simp⟩
  | cons pair pairs ih =>
    obtain ⟨here, later⟩ := List.forall_mem_cons.mp meet
    obtain ⟨report, first, good⟩ := legal.composeInto_pair here
    obtain ⟨reports, others, allGood⟩ := ih (legal.linkPair pair)
      fun other member => clashing_linkPairs.not.mpr (later other member)
    refine ⟨report :: reports, ?_, ?_⟩
    · rw [composeEach_ok (congrArg Effect.outcome first), first, others,
        linkPairs_cons g pair pairs]
      rfl
    · simp only [List.forall_mem_cons, good, allGood, mem_names_linkPairs]

theorem exists_mem_neighbours {n : String} (several : 2 ≤ names.length) (member : n ∈ names) :
    ∃ pair ∈ neighbours names, n = pair.1 ∨ n = pair.2 := by
  induction names with
  | nil => cases member
  | cons first others ih =>
    match others, several with
    | second :: others, _ =>
      have here : (first, second) ∈ neighbours (first :: second :: others) := List.mem_cons_self ..
      rcases List.mem_cons.mp member with rfl | later
      · exact ⟨_, here, .inl rfl⟩
      · match others with
        | [] =>
          obtain rfl := List.mem_singleton.mp later
          exact ⟨_, here, .inr rfl⟩
        | third :: others =>
          obtain ⟨pair, inside, same⟩ := ih (by simp) later
          exact ⟨pair, List.mem_cons_of_mem _ inside, same⟩

theorem forall_neighbours_iff (good : String → Prop) (several : 2 ≤ names.length) :
    (∀ pair ∈ neighbours names, good pair.1 ∧ good pair.2) ↔ ∀ n ∈ names, good n := by
  constructor
  · intro all n member
    obtain ⟨pair, inside, rfl | rfl⟩ := exists_mem_neighbours several member
    · exact (all pair inside).1
    · exact (all pair inside).2
  · exact forall_neighbours

theorem WellFormed.composeRow_clash (legal : g.WellFormed) {after : List (String × String)}
    (split : neighbours names = before ++ pair :: after)
    (meet : ∀ other ∈ before, ¬ g.Clashing other) (clashes : g.Clash pair clash)
    (drawing : Graph → String → String → Graph × Notice) :
    composeRow drawing g names = ⟨g.linkPairs before, .error (.mismatch clash)⟩ := by
  obtain ⟨_, each, _⟩ := legal.composeEach_pairs meet
  have graph : (g.composeEach before).1 = g.linkPairs before := by rw [each]
  simp only [composeRow, split, clashes.composeEach meet, graph]

theorem WellFormed.composeRow_unknown (legal : g.WellFormed) (several : 2 ≤ names.length)
    (meet : ∀ pair ∈ neighbours names, ¬ g.Clashing pair) (unknown : ∃ n ∈ names, n ∉ g.names)
    (drawing : Graph → String → String → Graph × Notice) :
    ∃ report, composeRow drawing g names = ⟨g.linkPairs (neighbours names), .ok report⟩ ∧
      report.ok = false := by
  obtain ⟨reports, each, good⟩ := legal.composeEach_pairs meet
  have failure : (Report.merge reports).ok = false := by
    rw [Bool.eq_false_iff, ne_eq, Report.merge_ok, good,
      forall_neighbours_iff (· ∈ g.names) several]
    obtain ⟨n, member, absent⟩ := unknown
    exact fun known => absent (known n member)
  exact ⟨Report.merge reports, by simp [composeRow, each, failure], failure⟩

/-- The whole composite goes from the source of the last arrow to the target of the first. -/
theorem WellFormed.composeRow_whole (legal : g.WellFormed) (several : 2 ≤ names.length)
    (meet : ∀ pair ∈ neighbours names, ¬ g.Clashing pair) (known : ∀ n ∈ names, n ∈ g.names) :
    ∃ first last links, names.head?.bind g.arrow? = some first ∧
      names.getLast?.bind g.arrow? = some last ∧ links.ok = true ∧
      ∀ drawing : Graph → String → String → Graph × Notice,
        let drawn := drawing (g.linkPairs (neighbours names)) last.source first.target
        composeRow drawing g names = ⟨drawn.1, .ok (.merge [links, drawn.2.report])⟩ := by
  obtain ⟨reports, each, good⟩ := legal.composeEach_pairs meet
  have allGood : ∀ r ∈ reports, r.ok = true :=
    good.mpr ((forall_neighbours_iff (· ∈ g.names) several).mpr known)
  have links : (Report.merge reports).ok = true := Report.merge_ok.mpr allGood
  have steps := meeting_of_composeEach (congrArg Prod.snd each) allGood
  match names, several with
  | outer :: inner :: others, _ =>
    obtain ⟨first, _, found, _⟩ := steps (outer, inner) (List.mem_cons_self ..)
    obtain ⟨whole, last, composite, target, foundLast, source⟩ :=
      composeAll_row first found rfl steps
    refine ⟨first, last, Report.merge reports, found, foundLast, links, ?_⟩
    intro drawing drawn
    rw [← List.filterMap_cons_some found] at composite
    simp only [composeRow, each, links, Bool.not_true, Bool.false_eq_true, if_false,
      funext (arrow?_linkPairs g _), composite, source, target]
    rfl

theorem mem_ends_of_bind {asked : Option String} {a : Arrow}
    (found : asked.bind g.arrow? = some a) (pairs : List (String × String)) :
    a.source ∈ (g.linkPairs pairs).ends ∧ a.target ∈ (g.linkPairs pairs).ends := by
  obtain ⟨n, _, found⟩ := Option.bind_eq_some_iff.mp found
  exact mem_ends_of_arrow? ((arrow?_linkPairs g pairs n).trans found)

end Graph

namespace Command

/-- A row of two or more names in a well-formed graph, composed without a name or with one. At the
first neighbours that do not meet both commands break down, after the composites of those before. If
names are unknown, both fail, and no more than the composites of neighbours is drawn. Otherwise one
command links the ends of the whole row, and the other does what it does to draw an arrow between
them under its name. -/
theorem composing_rows {g : Graph} (names : List String) (name : String) (legal : g.WellFormed)
    (several : 2 ≤ names.length) :
    let plain := (single (.composeChain names)).apply g
    let named := (single (.composeNamedChain name names)).apply g
    let between := g.linkPairs (neighbours names)
    (∀ before pair clash after, neighbours names = before ++ pair :: after →
      (∀ other ∈ before, ¬ g.Clashing other) → g.Clash pair clash →
        ∀ run ∈ [plain, named],
          run.graph = g.linkPairs before ∧ run.outcome = .error (.mismatch clash)) ∧
    ((∀ pair ∈ neighbours names, ¬ g.Clashing pair) → (∃ n ∈ names, n ∉ g.names) →
      ∀ run ∈ [plain, named],
        run.graph = between ∧ ∃ report, run.outcome = .ok report ∧ report.ok = false) ∧
    ((∀ pair ∈ neighbours names, ¬ g.Clashing pair) → (∀ n ∈ names, n ∈ g.names) →
      ∃ first last, names.head?.bind g.arrow? = some first ∧
        names.getLast?.bind g.arrow? = some last ∧
        plain.graph = between.link (last.source, first.target) ∧ Succeeds plain.outcome ∧
        let whole := (single (.drawNamed name last.source first.target)).apply between
        named.graph = whole.graph ∧
        ∃ links report, links.ok = true ∧ whole.outcome = .ok report ∧
          named.outcome = .ok (.merge [links, report])) := by
  intro plain named between
  refine ⟨?_, ?_, ?_⟩
  · intro before pair clash after split meet clashes
    have row := legal.composeRow_clash split meet clashes
    simp [plain, named, apply, Statement.perform, row]
  · intro meet unknown
    have row := legal.composeRow_unknown several meet unknown
    obtain ⟨report, done, failure⟩ := row Graph.draw
    obtain ⟨report', done', failure'⟩ := row (·.drawNamed name · ·)
    simp [plain, named, apply, Statement.perform, done, done', failure, failure', between]
  · intro meet known
    obtain ⟨first, last, links, foundFirst, foundLast, good, row⟩ :=
      legal.composeRow_whole several meet known
    obtain ⟨graph, success⟩ := (legal.linkPairs (neighbours names)).draw_objects
      (Graph.mem_ends_of_bind foundLast _).1 (Graph.mem_ends_of_bind foundFirst _).2
    have unnamed := row Graph.draw
    have ofName := row (·.drawNamed name · ·)
    refine ⟨first, last, foundFirst, foundLast, ?_, ?_, ?_, links, _, good, rfl, ?_⟩
    · simp only [plain, apply, Statement.perform, unnamed, graph, between]
    · refine ⟨_, congrArg Effect.outcome unnamed, ?_⟩
      simp [Report.merge_ok, good, Notice.report, success]
    · exact (congrArg Effect.graph ofName :)
    · exact (congrArg Effect.outcome ofName :)

/-- In the first row the neighbours `g` and `f` meet, `f` and `h` do not, and `k` is not reached. -/
theorem composing_rows_apart :
    let f : Arrow := ⟨"a", "b", some "f"⟩
    let h : Arrow := ⟨"x", "y", some "h"⟩
    let g : Graph := ⟨[⟨"b", "c", some "g"⟩, f, h]⟩
    (∀ run ∈ [(single (.composeChain ["g", "f", "h", "k"])).apply g,
        (single (.composeNamedChain "m" ["g", "f", "h", "k"])).apply g],
      run.graph = g.add ⟨"a", "c", none⟩ ∧ run.outcome = .error (.mismatch ⟨f, h⟩)) ∧
    (∀ run ∈ [(single (.composeChain ["g", "f", "k"])).apply g,
        (single (.composeNamedChain "m" ["g", "f", "k"])).apply g],
      run.graph = g.add ⟨"a", "c", none⟩ ∧ ∃ report, run.outcome = .ok report ∧ report.ok = false) ∧
    Succeeds ((single (.composeChain ["g", "f"])).apply g).outcome := by
  intro f h g
  have legal : g.WellFormed := ⟨by decide, by decide, by decide⟩
  have meet : ¬ g.Clashing ("g", "f") := by decide
  refine ⟨?_, ?_, ?_⟩
  · obtain ⟨apart, _⟩ := composing_rows ["g", "f", "h", "k"] "m" legal (by decide)
    exact apart [("g", "f")] ("f", "h") ⟨f, h⟩ [("h", "k")] rfl (by simpa using meet)
      ⟨rfl, rfl, by decide⟩
  · obtain ⟨_, unknown, _⟩ := composing_rows ["g", "f", "k"] "m" legal (by decide)
    exact unknown (by decide) ⟨"k", by simp, by decide⟩
  · obtain ⟨_, _, known⟩ := composing_rows ["g", "f"] "m" legal (by decide)
    obtain ⟨_, _, _, _, _, success, _⟩ := known (by decide) (by decide)
    exact success

end Command
end ArrowGraph
