import ArrowGraph.Proofs.Command.Strokes
import ArrowGraph.Proofs.Graph.Later
import ArrowGraph.Proofs.Graph.Reach

namespace ArrowGraph

open Relation (ReflTransGen)

namespace Graph

variable {g h : Graph}

def Meeting (g : Graph) (outer inner : String) : Prop :=
  ∃ a b, g.arrow? outer = some a ∧ g.arrow? inner = some b ∧ b.target = a.source

/-- The composite of two named arrows is drawn, under the name if there is one. -/
def Composed (g : Graph) (name : Option String) (outer inner : String) : Prop :=
  ∃ a b, g.arrow? outer = some a ∧ g.arrow? inner = some b ∧ b.target = a.source ∧
    g.Has ⟨b.source, a.target, name⟩

def Linked (g : Graph) (objects : List String) : Prop :=
  ∀ pair ∈ neighbours objects, g.Edge pair.1 pair.2

def Spanned (g : Graph) (name : String) (objects : List String) : Prop :=
  ∃ first last, objects.head? = some first ∧ objects.getLast? = some last ∧
    g.Has ⟨first, last, some name⟩

/-- The composites of all neighbours are drawn, and that of the whole row under the name if there is
one. -/
structure RowComposed (g : Graph) (name : Option String) (arrows : List String) : Prop where
  steps : ∀ pair ∈ neighbours arrows, g.Composed none pair.1 pair.2
  whole : ∃ first last, arrows.head?.bind g.arrow? = some first ∧
    arrows.getLast?.bind g.arrow? = some last ∧ g.Has ⟨last.source, first.target, name⟩

end Graph

/-- The graph has what the statement is to find or to draw. -/
def Statement.Holds (g : Graph) : Statement → Prop
  | skip => True
  | describe name => name ∈ g.names ∨ name ∈ g.ends
  | findRoute origin destination =>
    origin ∈ g.ends ∧ destination ∈ g.ends ∧ ReflTransGen g.Edge origin destination
  | draw source target => g.Has ⟨source, target, none⟩
  | drawNamed name source target => g.Has ⟨source, target, some name⟩
  | compose outer inner => g.Composed none outer inner
  | composeNamed name outer inner => g.Composed (some name) outer inner
  | drawChain objects => g.Linked objects
  | drawNamedChain name objects => g.Linked objects ∧ g.Spanned name objects
  | composeChain arrows => g.RowComposed none arrows
  | composeNamedChain name arrows => g.RowComposed (some name) arrows
  | unspecified => False

namespace Graph

variable {g h : Graph} {name : Option String}

theorem Later.composed {outer inner : String} (later : g.Later h) (shows : name ≠ some "")
    (composed : g.Composed name outer inner) : h.Composed name outer inner := by
  obtain ⟨a, b, foundOuter, foundInner, meet, has⟩ := composed
  obtain ⟨c, thereOuter, outerStays⟩ := later.arrow? foundOuter
  obtain ⟨d, thereInner, innerStays⟩ := later.arrow? foundInner
  refine ⟨c, d, thereOuter, thereInner, ?_, ?_⟩
  · rw [innerStays.target, outerStays.source, meet]
  · rw [innerStays.source, outerStays.target]
    exact later.grown.has shows has

theorem Composed.meeting {outer inner : String} (composed : g.Composed name outer inner) :
    g.Meeting outer inner := by
  obtain ⟨a, b, foundOuter, foundInner, meet, _⟩ := composed
  exact ⟨a, b, foundOuter, foundInner, meet⟩

theorem Later.linked {objects : List String} (later : g.Later h) (linked : g.Linked objects) :
    h.Linked objects :=
  fun pair member => later.grown.edge (linked pair member)

theorem Later.spanned {name : String} {objects : List String} (later : g.Later h)
    (shows : name ≠ "") (spanned : g.Spanned name objects) : h.Spanned name objects := by
  obtain ⟨first, last, starts, ends, has⟩ := spanned
  exact ⟨first, last, starts, ends, later.grown.has (by simpa using shows) has⟩

theorem Later.bind_arrow? {asked : Option String} {a : Arrow} (later : g.Later h)
    (found : asked.bind g.arrow? = some a) : ∃ b, asked.bind h.arrow? = some b ∧ a.Stays b := by
  cases asked with
  | none => cases found
  | some name => exact later.arrow? found

theorem Later.rowComposed {arrows : List String} (later : g.Later h) (shows : name ≠ some "")
    (composed : g.RowComposed name arrows) : h.RowComposed name arrows := by
  obtain ⟨steps, first, last, foundFirst, foundLast, has⟩ := composed
  obtain ⟨c, thereFirst, firstStays⟩ := later.bind_arrow? foundFirst
  obtain ⟨d, thereLast, lastStays⟩ := later.bind_arrow? foundLast
  have steps' : ∀ pair ∈ neighbours arrows, h.Composed none pair.1 pair.2 :=
    fun pair member => later.composed unnamed_ne_empty (steps pair member)
  refine ⟨steps', c, d, thereFirst, thereLast, ?_⟩
  rw [lastStays.source, firstStays.target]
  exact later.grown.has shows has

theorem Later.holds {s : Statement} (later : g.Later h) (shows : ∀ name ∈ s.givenNames, name ≠ "")
    (holds : s.Holds g) : s.Holds h := by
  have given {name : String} (gives : s.givenNames = [name]) : some name ≠ some "" :=
    Statement.ne_empty_of_givenNames shows gives
  cases s with
  | skip => trivial
  | unspecified => cases holds
  | describe name => exact holds.imp later.mem_names later.grown.object
  | findRoute origin destination =>
    obtain ⟨starts, ends, walk⟩ := holds
    exact ⟨later.grown.object starts, later.grown.object ends,
      ReflTransGen.mono (fun _ _ edge => later.grown.edge edge) _ _ walk⟩
  | draw => exact later.grown.has unnamed_ne_empty holds
  | drawNamed => exact later.grown.has (given rfl) holds
  | compose => exact later.composed unnamed_ne_empty holds
  | composeNamed => exact later.composed (given rfl) holds
  | drawChain => exact later.linked holds
  | drawNamedChain =>
    exact ⟨later.linked holds.1, later.spanned (shows _ (List.mem_singleton_self _)) holds.2⟩
  | composeChain => exact later.rowComposed unnamed_ne_empty holds
  | composeNamedChain => exact later.rowComposed (given rfl) holds

end Graph
end ArrowGraph
