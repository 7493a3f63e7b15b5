import ArrowGraph.Proofs.Command.Flat
import ArrowGraph.Proofs.Graph.Stroke

/-! What commands do to a graph: strokes and nothing else, whether they succeed, fail or break down.
A stroke of a statement takes its name from the statement, and it goes between objects that the
statement mentions or that are linked by arrows already. -/
namespace ArrowGraph

open Relation (TransGen)
open Statement (performEach)

namespace Statement

def givenNames : Statement → List String
  | .drawNamed name .. | .composeNamed name .. | .drawNamedChain name _
  | .composeNamedChain name _ => [name]
  | _ => []

/-- The objects that a statement mentions in order to draw. -/
def objects : Statement → List String
  | .draw source target | .drawNamed _ source target => [source, target]
  | .drawChain objects | .drawNamedChain _ objects => objects
  | _ => []

theorem ne_empty_of_givenNames {s : Statement} {name : String}
    (shows : ∀ given ∈ s.givenNames, given ≠ "") (gives : s.givenNames = [name]) :
    some name ≠ some "" := by
  intro same
  exact shows name (gives ▸ List.mem_singleton_self name) (Option.some.inj same)

/-- What a statement may try to draw on a graph. -/
structure MayTry (s : Statement) (g : Graph) (a : Arrow) : Prop where
  name : ∀ name, a.name = some name → name ∈ s.givenNames
  ends : (a.source ∈ s.objects ∧ a.target ∈ s.objects) ∨ TransGen g.Edge a.source a.target

end Statement

namespace Graph

def drawAs (name : Option String) (g : Graph) (source target : String) : Graph × Notice :=
  g.attempt ⟨source, target, name⟩

theorem arrow?_edge {g : Graph} {name : String} {a : Arrow} (found : g.arrow? name = some a) :
    g.Edge a.source a.target :=
  edge_iff.mpr ⟨a, (arrow?_some found).1, rfl, rfl⟩

/-- All that can come of composing two arrows by their names. -/
inductive Composing (name : Option String) (g : Graph) (outer inner : String) : Effect → Prop where
  | missing (absent : g.arrow? outer = none ∨ g.arrow? inner = none) :
      Composing name g outer inner ⟨g, .ok (g.missing [outer, inner])⟩
  | apart {a b : Arrow} (foundOuter : g.arrow? outer = some a) (foundInner : g.arrow? inner = some b)
      (gap : b.target ≠ a.source) :
      Composing name g outer inner ⟨g, .error (.mismatch ⟨a, b⟩)⟩
  | drawn {a b : Arrow} (foundOuter : g.arrow? outer = some a)
      (foundInner : g.arrow? inner = some b) (meet : b.target = a.source) :
      Composing name g outer inner
        ⟨(g.attempt ⟨b.source, a.target, name⟩).1,
          .ok (g.attempt ⟨b.source, a.target, name⟩).2.report⟩

theorem composeInto_outcome (name : Option String) (g : Graph) (outer inner : String) :
    Composing name g outer inner (composeInto (drawAs name) g outer inner) := by
  unfold composeInto
  split
  · rename_i a b foundOuter foundInner
    unfold Arrow.compose
    by_cases meet : b.target = a.source
    · simp only [if_pos meet]
      exact .drawn foundOuter foundInner meet
    · simp only [if_neg meet]
      exact .apart foundOuter foundInner meet
  · rename_i no_pair
    refine .missing ?_
    cases foundOuter : g.arrow? outer with
    | none => exact .inl rfl
    | some a =>
      cases foundInner : g.arrow? inner with
      | none => exact .inr rfl
      | some b => exact absurd foundInner (no_pair a b foundOuter)

theorem strokes_composeInto {may : Graph → Arrow → Prop} (name : Option String) (g : Graph)
    (outer inner : String)
    (allowed : ∀ source target, TransGen g.Edge source target → may g ⟨source, target, name⟩) :
    Strokes may g (composeInto (drawAs name) g outer inner).graph := by
  have outcome := composeInto_outcome name g outer inner
  generalize composeInto (drawAs name) g outer inner = effect at outcome ⊢
  cases outcome with
  | missing => exact .refl
  | apart => exact .refl
  | drawn foundOuter foundInner meet =>
    have second := arrow?_edge foundOuter
    rw [← meet] at second
    exact strokes_of_attempt (allowed _ _ (.tail (.single (arrow?_edge foundInner)) second))

theorem strokes_composeEach {may : Graph → Arrow → Prop} (g : Graph)
    (pairs : List (String × String))
    (allowed : ∀ k source target, TransGen k.Edge source target → may k ⟨source, target, none⟩) :
    Strokes may g (g.composeEach pairs).1 := by
  induction pairs generalizing g with
  | nil => exact .refl
  | cons pair pairs ih =>
    obtain ⟨outer, inner⟩ := pair
    have first : Strokes may g (composeInto draw g outer inner).graph :=
      strokes_composeInto none g outer inner (allowed g)
    rw [composeEach]
    dsimp only
    split
    · exact first
    · exact first.trans (ih _)

theorem composeAll_cons_cons (a b : Arrow) (row : List Arrow) :
    composeAll (a :: b :: row) =
      if b.target = a.source then composeAll (⟨b.source, a.target, none⟩ :: row)
      else .error (.mismatch ⟨a, b⟩) := by
  by_cases meet : b.target = a.source
  · simp only [composeAll, List.foldlM_cons, Arrow.compose, if_pos meet]
    rfl
  · simp only [composeAll, List.foldlM_cons, Arrow.compose, if_neg meet]
    rfl

theorem leads_of_composeAll {g : Graph} {a : Arrow} {row : List Arrow} {whole : Arrow}
    (start : TransGen g.Edge a.source a.target) (drawn : ∀ b ∈ row, b ∈ g.arrows)
    (composed : composeAll (a :: row) = .ok whole) :
    TransGen g.Edge whole.source whole.target := by
  induction row generalizing a with
  | nil =>
    cases composed
    exact start
  | cons b row ih =>
    rw [composeAll_cons_cons] at composed
    split at composed
    · rename_i meet
      have edge : g.Edge b.source b.target :=
        edge_iff.mpr ⟨b, drawn b (List.mem_cons_self ..), rfl, rfl⟩
      have longer : TransGen g.Edge b.source a.target := .head edge (meet ▸ start)
      exact ih (a := ⟨b.source, a.target, none⟩) longer
        (fun c hc => drawn c (List.mem_cons_of_mem _ hc)) composed
    · cases composed

theorem ends_of_composeAll {good : String → Prop} {row : List Arrow} {whole : Arrow}
    (ends : ∀ a ∈ row, good a.source ∧ good a.target) (composed : composeAll row = .ok whole) :
    good whole.source ∧ good whole.target := by
  cases row with
  | nil => cases composed
  | cons a row =>
    induction row generalizing a with
    | nil =>
      cases composed
      exact ends _ (List.mem_cons_self ..)
    | cons b row ih =>
      rw [composeAll_cons_cons] at composed
      split at composed
      · refine ih ⟨b.source, a.target, none⟩ ?_ composed
        obtain ⟨here, others⟩ := List.forall_mem_cons.mp ends
        obtain ⟨next, others⟩ := List.forall_mem_cons.mp others
        exact List.forall_mem_cons.mpr ⟨⟨next.1, here.2⟩, others⟩
      · cases composed

theorem strokes_composeRow {may : Graph → Arrow → Prop} (name : Option String) (g : Graph)
    (names : List String)
    (between : ∀ k source target, TransGen k.Edge source target → may k ⟨source, target, none⟩)
    (last : ∀ k source target, TransGen k.Edge source target → may k ⟨source, target, name⟩) :
    Strokes may g (composeRow (drawAs name) g names).graph := by
  have steps := strokes_composeEach g (neighbours names) between
  unfold composeRow
  generalize g.composeEach (neighbours names) = result at steps ⊢
  obtain ⟨h, outcome⟩ := result
  cases outcome with
  | error e => exact steps
  | ok reports =>
    dsimp only
    split
    · exact steps
    · split
      · exact steps
      · rename_i whole composed
        have found : ∀ a ∈ names.filterMap h.arrow?, a ∈ h.arrows := by
          intro a member
          obtain ⟨_, _, found⟩ := List.mem_filterMap.mp member
          exact (arrow?_some found).1
        cases row : names.filterMap h.arrow? with
        | nil =>
          rw [row] at composed
          cases composed
        | cons a as =>
          rw [row] at composed found
          have start : h.Edge a.source a.target :=
            edge_iff.mpr ⟨a, found a (List.mem_cons_self ..), rfl, rfl⟩
          have leads := leads_of_composeAll (.single start)
            (fun b hb => found b (List.mem_cons_of_mem _ hb)) composed
          exact steps.trans (strokes_of_attempt (last h _ _ leads))

theorem mem_of_mem_neighbours {objects : List String} {pair : String × String}
    (member : pair ∈ neighbours objects) : pair.1 ∈ objects ∧ pair.2 ∈ objects :=
  ⟨(List.of_mem_zip member).1, List.mem_of_mem_tail (List.of_mem_zip member).2⟩

theorem forall_neighbours {good : String → Prop} {words : List String}
    (all : ∀ word ∈ words, good word) : ∀ pair ∈ neighbours words, good pair.1 ∧ good pair.2 := by
  intro pair member
  obtain ⟨first, second⟩ := mem_of_mem_neighbours member
  exact ⟨all _ first, all _ second⟩

theorem strokes_drawEach {may : Graph → Arrow → Prop} (g : Graph) (pairs : List (String × String))
    (allowed : ∀ k, ∀ pair ∈ pairs, may k ⟨pair.1, pair.2, none⟩) :
    Strokes may g (g.drawEach pairs).1 := by
  induction pairs generalizing g with
  | nil => exact .refl
  | cons pair pairs ih =>
    have first : Strokes may g (g.draw pair.1 pair.2).1 :=
      strokes_of_attempt (a := ⟨pair.1, pair.2, none⟩) (allowed g pair (List.mem_cons_self ..))
    exact first.trans (ih _ fun k other hother => allowed k other (List.mem_cons_of_mem _ hother))

theorem strokes_drawNamedRow {may : Graph → Arrow → Prop} (g : Graph) (name : String)
    (objects : List String)
    (allowed : ∀ k, ∀ source ∈ objects, ∀ target ∈ objects, ∀ label,
      label = none ∨ label = some name → may k ⟨source, target, label⟩) :
    Strokes may g (g.drawNamedRow name objects).graph := by
  have links : Strokes may g (g.drawRow objects).1 := by
    refine strokes_drawEach g _ fun k pair member => ?_
    obtain ⟨starts, ends⟩ := mem_of_mem_neighbours member
    exact allowed k _ starts _ ends none (.inl rfl)
  unfold drawNamedRow
  generalize g.drawRow objects = drawn at links ⊢
  obtain ⟨h, report⟩ := drawn
  dsimp only
  split
  · exact links
  · split
    · rename_i first last starts ends
      have named := allowed h first (List.mem_of_head? starts) last (List.mem_of_getLast? ends)
        (some name) (.inr rfl)
      exact links.trans (strokes_of_attempt named)
    · exact links

end Graph

open ArrowGraph.Graph (Strokes)

/-- A statement changes a graph by strokes that it may try. -/
theorem strokes_perform (s : Statement) (g : Graph) : Strokes s.MayTry g (s.perform g).graph := by
  cases s with
  | skip => exact .refl
  | describe => exact .refl
  | findRoute => exact .refl
  | unspecified => exact .refl
  | draw source target =>
    exact Graph.strokes_of_attempt (a := ⟨source, target, none⟩)
      ⟨nofun, .inl (by simp [Statement.objects])⟩
  | drawNamed name source target =>
    refine Graph.strokes_of_attempt (a := ⟨source, target, some name⟩) ⟨?_, .inl ?_⟩
    · simp [Statement.givenNames]
    · simp [Statement.objects]
  | compose outer inner =>
    exact Graph.strokes_composeInto none g outer inner fun _ _ leads => ⟨nofun, .inr leads⟩
  | composeNamed name outer inner =>
    refine Graph.strokes_composeInto (some name) g outer inner fun _ _ leads => ⟨?_, .inr leads⟩
    simp [Statement.givenNames]
  | drawChain objects =>
    refine Graph.strokes_drawEach g _ fun k pair member => ⟨nofun, .inl ?_⟩
    exact Graph.mem_of_mem_neighbours member
  | drawNamedChain name objects =>
    refine Graph.strokes_drawNamedRow g name objects ?_
    intro k source starts target ends label given
    refine ⟨?_, .inl ⟨starts, ends⟩⟩
    rintro _ rfl
    simpa [Statement.givenNames] using given
  | composeChain arrows =>
    exact Graph.strokes_composeRow none g arrows (fun _ _ _ leads => ⟨nofun, .inr leads⟩)
      fun _ _ _ leads => ⟨nofun, .inr leads⟩
  | composeNamedChain name arrows =>
    refine Graph.strokes_composeRow (some name) g arrows
      (fun _ _ _ leads => ⟨nofun, .inr leads⟩) fun _ _ _ leads => ⟨?_, .inr leads⟩
    simp [Statement.givenNames]

def Command.MayTry (c : Command) (g : Graph) (a : Arrow) : Prop :=
  ∃ s ∈ c.statements, s.MayTry g a

theorem strokes_performEach (g : Graph) (ss : List Statement) :
    Strokes (fun k a => ∃ s ∈ ss, s.MayTry k a) g (performEach g ss).1 := by
  induction ss generalizing g with
  | nil => exact .refl
  | cons s ss ih =>
    have first : Strokes (fun k a => ∃ t ∈ s :: ss, t.MayTry k a) g (s.perform g).graph :=
      (strokes_perform s g).mono fun _ _ allowed => ⟨s, List.mem_cons_self .., allowed⟩
    cases done : (s.perform g).outcome with
    | error e =>
      rw [performEach_error done]
      exact first
    | ok report =>
      rw [performEach_ok done]
      refine first.trans ((ih _).mono ?_)
      rintro k a ⟨t, member, allowed⟩
      exact ⟨t, List.mem_cons_of_mem _ member, allowed⟩

theorem strokes_apply (c : Command) (g : Graph) : Strokes c.MayTry g (c.apply g).graph := by
  rw [Command.apply_graph]
  exact strokes_performEach g c.statements

end ArrowGraph
