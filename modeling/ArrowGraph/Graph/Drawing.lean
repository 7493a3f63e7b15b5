import ArrowGraph.Graph.Route
import ArrowGraph.Report

/-!
Looking at a graph and drawing in it. No name may be both an object and an arrow, names of arrows
are given once, and a named arrow keeps its name. What one look or one attempt to draw comes to is a
notice, and all wording of single answers is that of notices.
-/
namespace ArrowGraph

inductive Notice where
  | drew (arrow : Arrow)
  /-- An arrow that had no name was given one. -/
  | named (arrow : Arrow)
  | present (arrow : Arrow)
  /-- An end of the arrow is the name of an arrow. -/
  | endIsArrow
  /-- The name is an object, or would become one. -/
  | nameIsObject
  | edgeIsNamed (source target name : String)
  | nameIsTaken (name : String)
  | isArrow (arrow : Arrow)
  | isObject (name : String) (touching : List Arrow)
  | nothingNamed (name : String)
  | noArrow (name : String)
  | routeFound (objects : List String)
  | noRoute (origin destination : String)
  deriving DecidableEq, Repr

namespace Notice

def isSuccess : Notice → Bool
  | .drew _ | .named _ | .present _ | .isArrow _ | .isObject .. | .routeFound _ => true
  | .endIsArrow | .nameIsObject | .edgeIsNamed .. | .nameIsTaken _ | .nothingNamed _
  | .noArrow _ | .noRoute .. => false

def text : Notice → String
  | .drew arrow => "Drew arrow " ++ arrow.text
  | .named arrow => "Named arrow " ++ arrow.text
  | .present arrow => "Arrow " ++ arrow.text ++ " already exists"
  | .endIsArrow => "Arrows can't point to arrows"
  | .nameIsObject => "Objects can't also be arrows"
  | .edgeIsNamed source target name =>
    "Arrow " ++ source ++ " -> " ++ target ++ " is already named " ++ name
  | .nameIsTaken name => "Arrow name " ++ name ++ " is already taken"
  | .isArrow arrow => arrow.text
  | .isObject name touching =>
    name ++ " is an object with arrows: " ++ ", ".intercalate (touching.map Arrow.text)
  | .nothingNamed name => "Nothing named " ++ name
  | .noArrow name => "No arrow named " ++ name
  | .routeFound objects => " -> ".intercalate objects
  | .noRoute origin destination => "No route from " ++ origin ++ " to " ++ destination

def report (n : Notice) : Report :=
  ⟨n.isSuccess, n.text⟩

end Notice

namespace Graph

/-- Say what stands behind a name; an arrow goes before an object. -/
def describe (g : Graph) (name : String) : Notice :=
  match g.arrow? name with
  | some a => .isArrow a
  | none =>
    if g.hasObject name then .isObject name (g.touching name) else .nothingNamed name

def findRoute (g : Graph) (origin destination : String) : Notice :=
  if !g.hasObject origin then .nothingNamed origin
  else if !g.hasObject destination then .nothingNamed destination
  else
    match g.route origin destination with
    | some objects => .routeFound objects
    | none => .noRoute origin destination

def draw (g : Graph) (source target : String) : Graph × Notice :=
  if g.hasName source || g.hasName target then (g, .endIsArrow)
  else
    match g.edge? source target with
    | some a => (g, .present a)
    | none => (g.add ⟨source, target, none⟩, .drew ⟨source, target, none⟩)

/-- Draw an arrow with a name, or name the edge that is there without one. -/
def drawNamed (g : Graph) (name source target : String) : Graph × Notice :=
  if g.hasObject name || name = source || name = target then (g, .nameIsObject)
  else if g.hasName source || g.hasName target then (g, .endIsArrow)
  else
    match g.edge? source target with
    | some a =>
      if a.name = some name then (g, .present a)
      else
        match a.givenName with
        | some old => (g, .edgeIsNamed source target old)
        | none =>
          if g.hasName name then (g, .nameIsTaken name)
          else (g.nameEdge name source target, .named { a with name := some name })
    | none =>
      if g.hasName name then (g, .nameIsTaken name)
      else (g.add ⟨source, target, some name⟩, .drew ⟨source, target, some name⟩)

def drawEach (g : Graph) : List (String × String) → Graph × List Notice
  | [] => (g, [])
  | (source, target) :: pairs =>
    let first := g.draw source target
    let others := drawEach first.1 pairs
    (others.1, first.2 :: others.2)

end Graph
end ArrowGraph
