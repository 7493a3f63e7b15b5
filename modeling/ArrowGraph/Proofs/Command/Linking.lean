import ArrowGraph.Proofs.Command.Possible
import ArrowGraph.Proofs.Command.Row

/-! Rows of objects. What a row adds to a graph can be read off the graph that it starts from,
whatever is refused on the way. So can it in a proper graph whether the arrow from the first object
to the last takes a name, although by then the row is drawn. -/
namespace ArrowGraph

def Arrow.takeName (name source target : String) (a : Arrow) : Arrow :=
  if a.source = source ∧ a.target = target then { a with name := some name } else a

namespace Graph

variable {g : Graph} {pair : String × String} {pairs links : List (String × String)}
  {objects : List String} {name source target : String}

/-- There is no arrow between the two, and neither of them is the name of an arrow. -/
def Lacks (g : Graph) (ends : String × String) : Prop :=
  ends.1 ∉ g.names ∧ ends.2 ∉ g.names ∧ ends ∉ g.edges

instance (g : Graph) : DecidablePred g.Lacks := fun ends =>
  inferInstanceAs (Decidable (ends.1 ∉ g.names ∧ ends.2 ∉ g.names ∧ ends ∉ g.edges))

/-- The pairs that the graph lacks, each once, in the order of their first occurrence. -/
def newLinks (g : Graph) (pairs : List (String × String)) : List (String × String) :=
  (pairs.filter (g.Lacks ·)).eraseDups

def addLinks (g : Graph) (links : List (String × String)) : Graph :=
  ⟨g.arrows ++ links.map fun ends => ⟨ends.1, ends.2, none⟩⟩

/-- The graph with the name on the arrow between two objects, or on a new one if there is none. -/
def nameLink (g : Graph) (name source target : String) : Graph :=
  if ∃ a ∈ g.arrows, a.source = source ∧ a.target = target then
    ⟨g.arrows.map (Arrow.takeName name source target)⟩
  else g.add ⟨source, target, some name⟩

/-- The arrow between the two is missing, or has no name or this one. No other arrow has the
name. -/
structure NameFits (g : Graph) (name source target : String) : Prop where
  edge : ∀ a ∈ g.arrows, a.source = source → a.target = target →
    a.name = none ∨ a.name = some name
  unused : ∀ a ∈ g.arrows, a.name = some name → a.source = source ∧ a.target = target

/-! Anonymous links. -/

theorem draw_fst (g : Graph) (source target : String) :
    (g.draw source target).1 =
      if g.Lacks (source, target) then g.add ⟨source, target, none⟩ else g := by
  have outcome := draw_outcome g source target
  by_cases lacks : g.Lacks (source, target)
  · have free : g.Free ⟨source, target, none⟩ := ⟨lacks.1, lacks.2.1, nofun, nofun⟩
    have drawn := attempt_free free lacks.2.2
    rw [if_pos lacks]
    exact congrArg Prod.fst drawn
  · rw [if_neg lacks]
    generalize g.draw source target = result at outcome ⊢
    cases outcome with
    | refused | present => rfl
    | added free absent =>
      exact absurd ⟨free.source, free.target, edge?_eq_none_iff.mp absent⟩ lacks
    | named _ asked => cases asked

theorem lacks_add {other : String × String} :
    (g.add ⟨pair.1, pair.2, none⟩).Lacks other ↔ g.Lacks other ∧ other ≠ pair := by
  simp [Lacks, and_assoc]

theorem newLinks_cons_of_lacks (lacks : g.Lacks pair) :
    g.newLinks (pair :: pairs) = pair :: (g.add ⟨pair.1, pair.2, none⟩).newLinks pairs := by
  have later : pairs.filter ((g.add ⟨pair.1, pair.2, none⟩).Lacks ·) =
      (pairs.filter (g.Lacks ·)).filter fun other => !other == pair := by
    rw [List.filter_filter]
    refine List.filter_congr fun other _ => ?_
    simp [lacks_add, and_comm, beq_eq_decide]
  rw [newLinks, newLinks, later, List.filter_cons_of_pos (by simpa using lacks),
    List.eraseDups_cons]

/-- Of each pair the graph that is drawn in counts, and it lacks what the first one lacks, less what
has been drawn. -/
theorem drawEach_fst (g : Graph) (pairs : List (String × String)) :
    (g.drawEach pairs).1 = g.addLinks (g.newLinks pairs) := by
  induction pairs generalizing g with
  | nil => simp [drawEach, newLinks, addLinks]
  | cons pair pairs ih =>
    have step : (g.drawEach (pair :: pairs)).1 =
        (g.draw pair.1 pair.2).1.addLinks ((g.draw pair.1 pair.2).1.newLinks pairs) := ih _
    rw [step, draw_fst]
    by_cases lacks : g.Lacks pair
    · rw [if_pos lacks, newLinks_cons_of_lacks lacks]
      simp [addLinks]
    · rw [if_neg lacks, newLinks, newLinks, List.filter_cons_of_neg (by simpa using lacks)]

@[simp] theorem names_addLinks : (g.addLinks links).names = g.names := by
  simp [names, addLinks]

theorem names_draw : (g.draw source target).1.names = g.names := by
  rw [draw_fst]
  split <;> simp

theorem isSuccess_drawEach_iff :
    (∀ n ∈ (g.drawEach pairs).2, n.isSuccess = true) ↔
      ∀ pair ∈ pairs, pair.1 ∉ g.names ∧ pair.2 ∉ g.names := by
  induction pairs generalizing g with
  | nil => simp [drawEach]
  | cons pair pairs ih =>
    rw [drawEach, List.forall_mem_cons, List.forall_mem_cons, isSuccess_draw_iff, ih, names_draw]

theorem drawRow_fst (g : Graph) (objects : List String) :
    (g.drawRow objects).1 = g.addLinks (g.newLinks (neighbours objects)) :=
  drawEach_fst g (neighbours objects)

theorem drawRow_ok_iff :
    (g.drawRow objects).2.ok = true ↔ objects.length < 2 ∨ ∀ o ∈ objects, o ∉ g.names := by
  have links : (g.drawRow objects).2.ok = true ↔
      ∀ pair ∈ neighbours objects, pair.1 ∉ g.names ∧ pair.2 ∉ g.names := by
    rw [← isSuccess_drawEach_iff, drawRow, Report.merge_ok, List.forall_mem_map]
    rfl
  rw [links]
  rcases Nat.lt_or_ge objects.length 2 with short | several
  · have alone : neighbours objects = [] := by
      rcases objects with _ | ⟨_, _ | ⟨_, _⟩⟩
      · rfl
      · rfl
      · exact absurd short (Nat.not_lt.mpr (Nat.le_add_left 2 _))
    simp [alone, short]
  · rw [forall_neighbours_iff (· ∉ g.names) several, or_iff_right (Nat.not_lt.mpr several)]

/-! A name for the arrow from the first object to the last. -/

theorem mem_ends_addLinks {word : String} :
    word ∈ (g.addLinks links).ends ↔
      word ∈ g.ends ∨ ∃ link ∈ links, word = link.1 ∨ word = link.2 := by
  simp [ends, addLinks]

/-- An anonymous arrow hides what is asked of its name, and no arrow that was there before it. -/
theorem bind_edge?_addLinks (label : Arrow → Option String)
    (hidden : ∀ a : Arrow, a.name = none → label a = none) :
    ((g.addLinks links).edge? source target).bind label =
      (g.edge? source target).bind label := by
  rw [edge?, addLinks, List.find?_append, ← edge?]
  cases g.edge? source target with
  | some a => rfl
  | none =>
    rw [Option.none_or, Option.bind_none, Option.bind_eq_none_iff]
    intro a found
    obtain ⟨link, _, rfl⟩ := List.mem_map.mp (List.mem_of_find?_eq_some found)
    exact hidden _ rfl

theorem Proper.nameFits_iff (proper : g.Proper) :
    ((g.edge? source target).bind Arrow.name = some name ∨
        (g.edge? source target).bind Arrow.givenName = none ∧ name ∉ g.names) ↔
      g.NameFits name source target := by
  constructor
  · rintro (same | ⟨unnamed, unused⟩)
    · obtain ⟨b, found, named⟩ := Option.bind_eq_some_iff.mp same
      obtain ⟨here, rfl, rfl⟩ := edge?_some found
      refine ⟨fun a member starts ends => ?_, fun a member alike => ?_⟩
      · rw [proper.same_edge member here starts ends]
        exact .inr named
      · rw [proper.same_name member here alike named]
        exact ⟨rfl, rfl⟩
    · refine ⟨?_, fun a member alike => absurd (mem_names.mpr ⟨a, member, alike⟩) unused⟩
      rintro a member rfl rfl
      rw [proper.edge? member] at unnamed
      exact .inl (proper.name_eq_none member unnamed)
  · intro fits
    by_cases isName : name ∈ g.names
    · obtain ⟨a, member, named⟩ := mem_names.mp isName
      obtain ⟨rfl, rfl⟩ := fits.unused a member named
      rw [proper.edge? member]
      exact .inl named
    · refine .inr ⟨?_, isName⟩
      cases found : g.edge? source target with
      | none => rfl
      | some b =>
        obtain ⟨member, starts, ends⟩ := edge?_some found
        rcases fits.edge b member starts ends with unnamed | named
        · exact Arrow.givenName_eq_none_iff.mpr (.inl unnamed)
        · exact absurd (mem_names.mpr ⟨b, member, named⟩) isName

/-- After a row of objects that are no names, exactly these have become objects. A row of one object
draws nothing, so that its object has to be mentioned. -/
theorem mem_ends_drawRow (clean : ∀ o ∈ objects, o ∉ g.names) (nonempty : objects ≠ [])
    (word : String) :
    (word ∈ (g.drawRow objects).1.ends ∨ word = objects.head nonempty ∨
      word = objects.getLast nonempty) ↔ word ∈ g.ends ∨ word ∈ objects := by
  constructor
  · rintro (known | rfl | rfl)
    · rw [drawRow_fst, mem_ends_addLinks] at known
      refine known.imp_right ?_
      rintro ⟨link, new, touched⟩
      have pair : link ∈ neighbours objects := List.mem_of_mem_filter (List.mem_eraseDups.mp new)
      obtain ⟨starts, ends⟩ := mem_of_mem_neighbours pair
      rcases touched with rfl | rfl
      · exact starts
      · exact ends
    · exact .inr (List.head_mem nonempty)
    · exact .inr (List.getLast_mem nonempty)
  · rintro (old | member)
    · rw [drawRow_fst, mem_ends_addLinks]
      exact .inl (.inl old)
    · rcases Nat.lt_or_ge objects.length 2 with short | several
      · obtain ⟨only, rfl⟩ : ∃ only, objects = [only] := by
          match objects, nonempty, short with
          | [only], _, _ => exact ⟨only, rfl⟩
        exact .inr (.inl (List.mem_singleton.mp member))
      · obtain ⟨pair, inside, touched⟩ := exists_mem_neighbours several member
        obtain ⟨isSource, isTarget⟩ :=
          mem_ends_of_edge (linked_of_drawRow (drawRow_ok_iff.mpr (.inr clean)) pair inside)
        rcases touched with rfl | rfl
        · exact .inl isSource
        · exact .inl isTarget

theorem Proper.isSuccess_drawNamed_drawRow (proper : g.Proper)
    (clean : ∀ o ∈ objects, o ∉ g.names) (nonempty : objects ≠ []) :
    ((g.drawRow objects).1.drawNamed name (objects.head nonempty)
        (objects.getLast nonempty)).2.isSuccess = true ↔
      (name ∉ g.ends ∧ name ∉ objects) ∧
        g.NameFits name (objects.head nonempty) (objects.getLast nonempty) := by
  have apart := (mem_ends_drawRow clean nonempty name).not
  have first := clean _ (List.head_mem nonempty)
  have last := clean _ (List.getLast_mem nonempty)
  rw [isSuccess_drawNamed_iff, ← proper.nameFits_iff]
  rw [drawRow_fst] at apart ⊢
  rw [names_addLinks, bind_edge?_addLinks Arrow.name fun _ unnamed => unnamed,
    bind_edge?_addLinks Arrow.givenName fun _ unnamed =>
      Arrow.givenName_eq_none_iff.mpr (.inl unnamed)]
  simp only [not_or] at apart
  simp only [ne_eq, apart, first, last, not_false_eq_true, true_and, and_self]

/-! What the name comes to. -/

theorem nameFirst_eq_map {as : List Arrow}
    (distinct : (as.map fun a => (a.source, a.target)).Nodup) :
    nameFirst name source target as = as.map (Arrow.takeName name source target) := by
  induction as with
  | nil => rfl
  | cons a as ih =>
    obtain ⟨fresh, distinct⟩ := List.nodup_cons.mp distinct
    rw [nameFirst, List.map_cons]
    by_cases here : a.source = source ∧ a.target = target
    · obtain ⟨rfl, rfl⟩ := here
      have others : as.map (Arrow.takeName name a.source a.target) = as := by
        refine (List.map_congr_left fun b member => ?_).trans (List.map_id as)
        refine if_neg fun same => fresh (List.mem_map.mpr ⟨b, member, ?_⟩)
        rw [same.1, same.2]
      simp [Arrow.sameEdge, Arrow.takeName, others]
    · simp [Arrow.sameEdge, Arrow.takeName, here, ih distinct]

theorem WellFormed.drawNamed_fst (legal : g.WellFormed)
    (success : (g.drawNamed name source target).2.isSuccess = true) :
    (g.drawNamed name source target).1 = g.nameLink name source target := by
  have outcome := drawNamed_outcome g name source target
  generalize g.drawNamed name source target = result at outcome success ⊢
  cases outcome with
  | refused failure =>
    rw [failure] at success
    cases success
  | @present b found same =>
    obtain ⟨here, rfl, rfl⟩ := edge?_some found
    have named : b.name = some name := by simpa using same
    have kept : g.arrows.map (Arrow.takeName name b.source b.target) = g.arrows := by
      refine (List.map_congr_left fun a member => ?_).trans (List.map_id _)
      unfold Arrow.takeName
      split
      · rename_i alike
        obtain rfl := legal.same_edge member here alike.1 alike.2
        rw [← named]
        rfl
      · rfl
    rw [nameLink, if_pos ⟨b, here, rfl, rfl⟩, kept]
  | added _ absent => exact (if_neg (edge_iff.not.mp (edge?_eq_none_iff.mp absent))).symm
  | named _ asked found =>
    cases asked
    obtain ⟨here, starts, ends⟩ := edge?_some found
    rw [nameLink, if_pos ⟨_, here, starts, ends⟩, ← nameFirst_eq_map legal.edges]
    rfl

theorem drawNamedRow_outcome (g : Graph) (name : String) (nonempty : objects ≠ []) :
    let between := (g.drawRow objects).1
    let drawn := between.drawNamed name (objects.head nonempty) (objects.getLast nonempty)
    ∃ report, (g.drawNamedRow name objects).outcome = .ok report ∧
      (report.ok = true ↔ (g.drawRow objects).2.ok = true ∧ drawn.2.isSuccess = true) ∧
      (report.ok = true → (g.drawNamedRow name objects).graph = drawn.1) ∧
      (report.ok = false → (g.drawNamedRow name objects).graph = between) := by
  intro between drawn
  cases links : (g.drawRow objects).2.ok with
  | false =>
    have row : g.drawNamedRow name objects = ⟨between, .ok (g.drawRow objects).2⟩ := by
      simp [drawNamedRow, links, between]
    exact ⟨_, congrArg Effect.outcome row, by simp [links], by simp [links],
      fun _ => congrArg Effect.graph row⟩
  | true =>
    have row : g.drawNamedRow name objects =
        ⟨drawn.1, .ok (.merge [(g.drawRow objects).2, drawn.2.report])⟩ := by
      simp [drawNamedRow, links, List.head?_eq_some_head nonempty,
        List.getLast?_eq_some_getLast nonempty, between, drawn]
    have good : (Report.merge [(g.drawRow objects).2, drawn.2.report]).ok = drawn.2.isSuccess := by
      simp [Report.merge, links, Notice.report]
    refine ⟨_, congrArg Effect.outcome row, by simp [good], fun _ => congrArg Effect.graph row, ?_⟩
    intro failure
    have refused : drawn.1 = between :=
      attempt_fst_of_failure (a := ⟨_, _, some name⟩) (good.symm.trans failure)
    exact (congrArg Effect.graph row).trans refused

theorem clean_of_named (nonempty : objects ≠ []) (links : (g.drawRow objects).2.ok = true)
    (named : ((g.drawRow objects).1.drawNamed name (objects.head nonempty)
      (objects.getLast nonempty)).2.isSuccess = true) : ∀ o ∈ objects, o ∉ g.names := by
  rcases drawRow_ok_iff.mp links with short | clean
  · match objects, nonempty, short with
    | [only], nonempty, _ =>
      obtain ⟨_, ⟨free, _⟩, _⟩ := isSuccess_drawNamed_iff.mp named
      rw [drawRow_fst, names_addLinks] at free
      exact List.forall_mem_singleton.mpr free
  · exact clean

/-- What a named row comes to in a proper graph, told from what the graph is before it. -/
theorem Proper.drawNamedRow_exact (proper : g.Proper) (nonempty : objects ≠ []) :
    ∃ report, (g.drawNamedRow name objects).outcome = .ok report ∧
      (report.ok = true ↔ (∀ o ∈ objects, o ∉ g.names) ∧ (name ∉ g.ends ∧ name ∉ objects) ∧
        g.NameFits name (objects.head nonempty) (objects.getLast nonempty)) ∧
      (report.ok = false → (g.drawNamedRow name objects).graph = (g.drawRow objects).1) ∧
      (report.ok = true → (g.drawNamedRow name objects).graph =
        (g.drawRow objects).1.nameLink name (objects.head nonempty)
          (objects.getLast nonempty)) := by
  obtain ⟨report, outcome, success, graph, refused⟩ := g.drawNamedRow_outcome name nonempty
  refine ⟨report, outcome, success.trans ⟨?_, ?_⟩, refused, fun good => ?_⟩
  · rintro ⟨drawn, good⟩
    have clean := clean_of_named nonempty drawn good
    exact ⟨clean, (proper.isSuccess_drawNamed_drawRow clean nonempty).mp good⟩
  · rintro ⟨clean, fits⟩
    exact ⟨drawRow_ok_iff.mpr (.inr clean),
      (proper.isSuccess_drawNamed_drawRow clean nonempty).mpr fits⟩
  · have drawn : Strokes (fun _ _ => True) g (g.drawRow objects).1 :=
      strokes_drawEach g _ fun _ _ _ => trivial
    have legal : (g.drawRow objects).1.WellFormed :=
      drawn.keep proper.toWellFormed fun _ a legal _ => legal.attempt a
    exact (graph good).trans (legal.drawNamed_fst (success.mp good).2)

end Graph

namespace Command

/-- A row of objects in any graph, and in a proper graph also under a name. Links that may not be
drawn are left out and stop no others. The name is refused, after the links are drawn, for one of
four causes that can be seen beforehand; else the arrow from the first object to the last gets
it. -/
theorem drawing_rows (g : Graph) (objects : List String) :
    let row := (single (.drawChain objects)).apply g
    ((∃ report, row.outcome = .ok report) ∧
      row.graph = g.addLinks (g.newLinks (neighbours objects)) ∧
      (Succeeds row.outcome ↔ objects.length < 2 ∨ ∀ o ∈ objects, o ∉ g.names)) ∧
    ∀ (name : String) (nonempty : objects ≠ []), g.Proper →
      let first := objects.head nonempty
      let last := objects.getLast nonempty
      let named := (single (.drawNamedChain name objects)).apply g
      (∃ report, named.outcome = .ok report) ∧
      (Succeeds named.outcome ↔ (∀ o ∈ objects, o ∉ g.names) ∧
        (name ∉ g.objects ∧ name ∉ objects) ∧ g.NameFits name first last) ∧
      (¬ Succeeds named.outcome → named.graph = row.graph) ∧
      (Succeeds named.outcome → named.graph = row.graph.nameLink name first last) := by
  intro row
  have links : row.outcome = .ok (g.drawRow objects).2 := rfl
  refine ⟨⟨⟨_, links⟩, g.drawRow_fst objects, ?_⟩, ?_⟩
  · rw [links, ← Graph.drawRow_ok_iff]
    simp [Succeeds]
  · intro name nonempty proper first last named
    obtain ⟨report, done, success, refused, graph⟩ := proper.drawNamedRow_exact nonempty
    have outcome : named.outcome = .ok report := done
    have succeeds : Succeeds named.outcome ↔ report.ok = true := by simp [Succeeds, outcome]
    rw [succeeds, Bool.not_eq_true, Graph.objects, List.mem_eraseDups]
    exact ⟨⟨report, outcome⟩, success, refused, graph⟩

/-- In the first row two links end at a name and one occurs twice. The second comes back to where it
starts, so that the name goes on an arrow that no link has drawn. -/
theorem drawing_rows_loop :
    let g : Graph := ⟨[⟨"x", "a", some "k"⟩, ⟨"a", "b", none⟩]⟩
    let row := (single (.drawChain ["a", "k", "b", "c", "b", "c"])).apply g
    let named := (single (.drawNamedChain "f" ["a", "b", "c", "a"])).apply g
    g.Proper ∧ row.graph = g.addLinks [("b", "c"), ("c", "b")] ∧ ¬ Succeeds row.outcome ∧
      Succeeds named.outcome ∧
      named.graph = (g.addLinks [("b", "c"), ("c", "a")]).add ⟨"a", "a", some "f"⟩ := by
  intro g row named
  have proper : g.Proper := ⟨⟨by decide, by decide, by decide⟩, by decide⟩
  obtain ⟨⟨_, graph, success⟩, _⟩ := drawing_rows g ["a", "k", "b", "c", "b", "c"]
  obtain ⟨⟨_, links, _⟩, naming⟩ := drawing_rows g ["a", "b", "c", "a"]
  obtain ⟨_, fits, _, drawn⟩ := naming "f" (List.cons_ne_nil _ _) proper
  have good : Succeeds named.outcome :=
    fits.mpr ⟨by decide, by decide, by decide, by decide⟩
  refine ⟨proper, graph.trans (by decide), ?_, good, ?_⟩
  · exact success.not.mpr (by decide)
  · refine (drawn good).trans ?_
    rw [links]
    decide

end Command
end ArrowGraph
