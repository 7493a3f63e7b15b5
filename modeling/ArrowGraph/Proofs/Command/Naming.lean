import ArrowGraph.Proofs.Command.Linking

/-! Giving a name. What is drawn before the name is given is anonymous, and the name is given last
and at once. So a statement that names an arrow names that one or none, and no other name is
moved. -/
namespace ArrowGraph

namespace Graph

variable {g : Graph} {name source target : String} {names objects : List String}

def rowEnds? (g : Graph) (names : List String) : Option (String × String) :=
  match names.getLast?.bind g.arrow?, names.head?.bind g.arrow? with
  | some last, some first => some (last.source, first.target)
  | _, _ => none

/-- Anonymous arrows are drawn, and after them one that takes the name if all goes well. -/
structure NamesLast (g : Graph) (name : String) (ends? : Option (String × String))
    (effect : Effect) : Prop where
  failed : ¬ Succeeds effect.outcome → Strokes (fun _ a => a.name = none) g effect.graph
  named : Succeeds effect.outcome → ∃ between source target,
    Strokes (fun _ a => a.name = none) g between ∧ ends? = some (source, target) ∧
      (between.drawNamed name source target).2.isSuccess = true ∧
      effect.graph = (between.drawNamed name source target).1

theorem arrow?_add_of_ne {a : Arrow} {asked : String} (other : a.name ≠ some asked) :
    (g.add a).arrow? asked = g.arrow? asked := by
  simp [arrow?, List.find?_append, other]

theorem arrow?_nameEdge_of_ne {b : Arrow} {asked : String} (found : g.edge? source target = some b)
    (unnamed : b.name = none) (other : asked ≠ name) :
    (g.nameEdge name source target).arrow? asked = g.arrow? asked := by
  obtain ⟨before, after, whole, named⟩ := nameEdge_split name found
  simp [arrow?, whole, named, List.find?_append, unnamed, other.symm]

theorem Proper.arrow?_drawNamed (proper : g.Proper)
    (success : (g.drawNamed name source target).2.isSuccess = true) :
    (g.drawNamed name source target).1.arrow? name = some ⟨source, target, some name⟩ ∧
      ∀ asked, asked ≠ name →
        (g.drawNamed name source target).1.arrow? asked = g.arrow? asked := by
  constructor
  · have legal := proper.toWellFormed.attempt ⟨source, target, some name⟩
    obtain ⟨⟨_, _, _⟩, member, starts, ends, same⟩ :=
      has_of_attempt (a := ⟨source, target, some name⟩) success
    obtain rfl := starts
    obtain rfl := ends
    obtain rfl : _ = some name := by simpa using same
    exact legal.arrow? member rfl
  · intro asked other
    have outcome := drawNamed_outcome g name source target
    generalize g.drawNamed name source target = result at outcome ⊢
    cases outcome with
    | refused | present => rfl
    | added => exact arrow?_add_of_ne (by simpa using other.symm)
    | named _ given found unnamed =>
      cases given
      exact arrow?_nameEdge_of_ne found
        (proper.name_eq_none (edge?_some found).1 unnamed) other

theorem NamesLast.arrow? {ends? : Option (String × String)} {effect : Effect} (proper : g.Proper)
    (last : g.NamesLast name ends? effect) :
    (¬ Succeeds effect.outcome → ∀ asked, effect.graph.arrow? asked = g.arrow? asked) ∧
    (Succeeds effect.outcome → ∃ source target, ends? = some (source, target) ∧
      effect.graph.arrow? name = some ⟨source, target, some name⟩ ∧
      ∀ asked, asked ≠ name → effect.graph.arrow? asked = g.arrow? asked) := by
  refine ⟨fun failure => arrow?_of_strokes (last.failed failure), fun success => ?_⟩
  obtain ⟨between, source, target, drawn, ends, good, graph⟩ := last.named success
  have now := (later_of_strokes proper drawn fun _ _ unnamed => unnamed ▸ unnamed_ne_empty).now
  obtain ⟨given, others⟩ := now.arrow?_drawNamed good
  rw [graph]
  exact ⟨source, target, ends, given, fun asked other =>
    (others asked other).trans (arrow?_of_strokes drawn asked)⟩

theorem namesLast_drawNamed (g : Graph) (name source target : String) :
    g.NamesLast name (some (source, target))
      ⟨(g.drawNamed name source target).1, .ok (g.drawNamed name source target).2.report⟩ := by
  constructor
  · intro failure
    have refused : (g.drawNamed name source target).2.isSuccess = false := by
      simpa [Succeeds, Notice.report] using failure
    have same : (g.drawNamed name source target).1 = g :=
      attempt_fst_of_failure (a := ⟨source, target, some name⟩) refused
    change Strokes _ g (g.drawNamed name source target).1
    rw [same]
    exact .refl
  · rintro ⟨_, ⟨⟩, good⟩
    exact ⟨g, source, target, .refl, rfl, good, rfl⟩

theorem namesLast_drawNamedRow (g : Graph) (name : String) (objects : List String) :
    g.NamesLast name
      (objects.head?.bind fun first => objects.getLast?.map fun last => (first, last))
      (g.drawNamedRow name objects) := by
  have links : Strokes (fun _ a => a.name = none) g (g.drawRow objects).1 :=
    strokes_drawEach g _ fun _ _ _ => rfl
  rcases eq_or_ne objects [] with rfl | nonempty
  · exact ⟨fun _ => links, fun ⟨_, done, _⟩ => nomatch done⟩
  · obtain ⟨report, done, success, graph, refused⟩ := g.drawNamedRow_outcome name nonempty
    constructor
    · intro failure
      have bad : report.ok = false := by simpa [Succeeds, done] using failure
      exact refused bad ▸ links
    · rintro ⟨report', done', good⟩
      obtain rfl := Except.ok.inj (done.symm.trans done')
      refine ⟨_, objects.head nonempty, objects.getLast nonempty, links, ?_, (success.mp good).2,
        graph good⟩
      simp [List.head?_eq_some_head nonempty, List.getLast?_eq_some_getLast nonempty]

theorem namesLast_composeInto (g : Graph) (name outer inner : String) :
    g.NamesLast name (g.rowEnds? [outer, inner])
      (composeInto (drawAs (some name)) g outer inner) := by
  have outcome := composeInto_outcome (some name) g outer inner
  generalize composeInto (drawAs (some name)) g outer inner = effect at outcome ⊢
  cases outcome with
  | missing absent =>
    refine ⟨fun _ => .refl, ?_⟩
    rintro ⟨_, ⟨⟩, good⟩
    exact absurd good (missing_not_ok absent)
  | apart => exact ⟨fun _ => .refl, fun ⟨_, done, _⟩ => nomatch done⟩
  | @drawn a b foundOuter foundInner _ =>
    have ends : g.rowEnds? [outer, inner] = some (b.source, a.target) := by
      simp [rowEnds?, foundOuter, foundInner]
    exact ends ▸ namesLast_drawNamed g name b.source a.target

theorem rowEnds?_of_composeAll {whole : Arrow}
    (steps : ∀ pair ∈ neighbours names, g.Meeting pair.1 pair.2)
    (composed : composeAll (names.filterMap g.arrow?) = .ok whole) :
    g.rowEnds? names = some (whole.source, whole.target) := by
  cases names with
  | nil => cases composed
  | cons outer others =>
    cases found : g.arrow? outer with
    | none =>
      cases others with
      | nil => simp [found, composeAll] at composed
      | cons inner others =>
        obtain ⟨_, _, known, _⟩ := steps (outer, inner) (List.mem_cons_self ..)
        cases found.symm.trans known
    | some first =>
      obtain ⟨whole', last, composite, target, foundLast, source⟩ :=
        composeAll_row first found rfl steps
      rw [List.filterMap_cons_some found, composite] at composed
      obtain rfl := Except.ok.inj composed
      simp [rowEnds?, found, foundLast, source, target]

theorem anonymous_composeEach (g : Graph) (pairs : List (String × String)) :
    Strokes (fun _ a => a.name = none) g (g.composeEach pairs).1 :=
  strokes_composeEach g pairs fun _ _ _ _ => rfl

theorem strokes_composeRow_of_failure (name : Option String)
    (failure : ¬ Succeeds (composeRow (drawAs name) g names).outcome) :
    Strokes (fun _ a => a.name = none) g (composeRow (drawAs name) g names).graph := by
  have steps := anonymous_composeEach g (neighbours names)
  unfold composeRow at failure ⊢
  generalize g.composeEach (neighbours names) = result at steps failure ⊢
  obtain ⟨between, outcome⟩ := result
  cases outcome with
  | error e => exact steps
  | ok reports =>
    dsimp only at steps failure ⊢
    split
    · exact steps
    · rename_i links
      rw [if_neg links] at failure
      split
      · exact steps
      · rename_i whole composed
        simp only [composed] at failure
        have refused :
            (between.attempt ⟨whole.source, whole.target, name⟩).2.isSuccess = false := by
          by_contra drawn
          refine failure ⟨_, rfl, Report.merge_ok.mpr (List.forall_mem_cons.mpr ⟨?_, ?_⟩)⟩
          · simpa using links
          · exact List.forall_mem_singleton.mpr (Bool.of_not_eq_false drawn)
        change Strokes _ g (between.attempt ⟨whole.source, whole.target, name⟩).1
        rw [attempt_fst_of_failure refused]
        exact steps

theorem namesLast_composeRow (g : Graph) (name : String) (names : List String) :
    g.NamesLast name (g.rowEnds? names) (composeRow (drawAs (some name)) g names) := by
  refine ⟨strokes_composeRow_of_failure (some name), fun success => ?_⟩
  obtain ⟨between, reports, whole, each, good, composed, drawn, graph⟩ := composeRow_success success
  have strokes := anonymous_composeEach g (neighbours names)
  have steps := meeting_of_composeEach (congrArg Prod.snd each) good
  rw [each] at strokes
  rw [funext (arrow?_of_strokes strokes)] at composed
  exact ⟨between, whole.source, whole.target, strokes, rowEnds?_of_composeAll steps composed, drawn,
    graph⟩

end Graph

namespace Statement

/-- Where the arrow leads that the statement gives a name to. -/
def namedEnds? (g : Graph) : Statement → Option (String × String)
  | drawNamed _ source target => some (source, target)
  | drawNamedChain _ objects =>
    objects.head?.bind fun first => objects.getLast?.map fun last => (first, last)
  | composeNamed _ outer inner => g.rowEnds? [outer, inner]
  | composeNamedChain _ names => g.rowEnds? names
  | _ => none

theorem namesLast_perform {s : Statement} {name : String} (gives : s.givenNames = [name])
    (g : Graph) : g.NamesLast name (s.namedEnds? g) (s.perform g) := by
  cases s with
  | drawNamed _ source target =>
    obtain rfl := List.singleton_inj.mp gives
    exact Graph.namesLast_drawNamed g _ source target
  | drawNamedChain _ objects =>
    obtain rfl := List.singleton_inj.mp gives
    exact Graph.namesLast_drawNamedRow g _ objects
  | composeNamed _ outer inner =>
    obtain rfl := List.singleton_inj.mp gives
    exact Graph.namesLast_composeInto g _ outer inner
  | composeNamedChain _ names =>
    obtain rfl := List.singleton_inj.mp gives
    exact Graph.namesLast_composeRow g _ names
  | _ => cases gives

end Statement

namespace Command

/-- A statement that gives a name in a proper graph gives it to the arrow that it is meant for, or,
when it fails or breaks down, to none. Every other name stands for the arrow that it stood for. -/
theorem naming_all_or_nothing {g : Graph} {s : Statement} {name : String} (proper : g.Proper)
    (gives : s.givenNames = [name]) :
    let run := (single s).apply g
    (¬ Succeeds run.outcome → ∀ asked, run.graph.arrow? asked = g.arrow? asked) ∧
    (Succeeds run.outcome → ∃ source target, s.namedEnds? g = some (source, target) ∧
      run.graph.arrow? name = some ⟨source, target, some name⟩ ∧
      ∀ asked, asked ≠ name → run.graph.arrow? asked = g.arrow? asked) :=
  (Statement.namesLast_perform gives g).arrow? proper

/-- The first row is composed and named. The second draws the same composite and breaks down at the
next, and the third asks for a name that is taken after it has drawn its link. -/
theorem naming_all_or_nothing_midway :
    let g : Graph := ⟨[⟨"b", "c", some "g"⟩, ⟨"a", "b", some "f"⟩, ⟨"x", "y", some "h"⟩]⟩
    let whole := (single (.composeNamedChain "k" ["g", "f"])).apply g
    let broken := (single (.composeNamedChain "k" ["g", "f", "h"])).apply g
    let taken := (single (.drawNamedChain "f" ["a", "c"])).apply g
    g.Proper ∧
    (whole.graph.arrow? "k" = some ⟨"a", "c", some "k"⟩ ∧
      ∀ asked, asked ≠ "k" → whole.graph.arrow? asked = g.arrow? asked) ∧
    ∀ run ∈ [broken, taken], run.graph = g.add ⟨"a", "c", none⟩ ∧
      ∀ asked, run.graph.arrow? asked = g.arrow? asked := by
  intro g whole broken taken
  have proper : g.Proper := ⟨⟨by decide, by decide, by decide⟩, by decide⟩
  obtain ⟨_, named⟩ := naming_all_or_nothing (s := .composeNamedChain "k" ["g", "f"]) proper rfl
  obtain ⟨source, target, ends, given, others⟩ := named (succeeds_apply_iff.mpr (by decide +kernel))
  cases ends
  have kept := (naming_all_or_nothing (s := .composeNamedChain "k" ["g", "f", "h"]) proper rfl).1
  have kept' := (naming_all_or_nothing (s := .drawNamedChain "f" ["a", "c"]) proper rfl).1
  refine ⟨proper, ⟨given, others⟩, List.forall_mem_cons.mpr ⟨⟨by decide +kernel, ?_⟩, ?_⟩⟩
  · exact kept (succeeds_apply_iff.not.mpr (by decide +kernel))
  · refine List.forall_mem_singleton.mpr ⟨by decide +kernel, ?_⟩
    exact kept' (succeeds_apply_iff.not.mpr (by decide +kernel))

end Command
end ArrowGraph
