/-!
Arrows and graphs. A graph is its arrows in the order in which they were drawn; the objects are the
ends of the arrows and are not stored. Main statements: an object is in the list of objects exactly
when some arrow touches it, and naming an edge keeps every end of every arrow.
-/
namespace ArrowGraph

structure Arrow where
  source : String
  target : String
  name : Option String := none
  deriving DecidableEq, Repr

/-- Two arrows that do not compose: the inner one does not end where the outer one starts. -/
structure Mismatch where
  outer : Arrow
  inner : Arrow
  deriving DecidableEq, Repr

namespace Arrow

/-- The name that an arrow shows; an empty name counts as none. -/
def givenName (a : Arrow) : Option String :=
  a.name.filter (· ≠ "")

/-- An arrow as it is drawn: its ends, after its name if it shows one. -/
def text (a : Arrow) : String :=
  let edge := a.source ++ " -> " ++ a.target
  match a.givenName with
  | some name => name ++ ": " ++ edge
  | none => edge

def sameEdge (a b : Arrow) : Bool :=
  a.source = b.source && a.target = b.target

def touches (a : Arrow) (object : String) : Bool :=
  object = a.source || object = a.target

/-- The anonymous arrow that applies `inner` first and then `outer`. -/
def compose (outer inner : Arrow) : Except Mismatch Arrow :=
  if inner.target = outer.source then .ok ⟨inner.source, outer.target, none⟩
  else .error ⟨outer, inner⟩

end Arrow

def Mismatch.message (m : Mismatch) : String :=
  "Cannot compose " ++ m.outer.text ++ " after " ++ m.inner.text ++ ": " ++ m.inner.target ++
    " is not " ++ m.outer.source

/-- The arrows of a session, in the order in which they were drawn. -/
structure Graph where
  arrows : List Arrow
  deriving DecidableEq, Repr

namespace Graph

def empty : Graph :=
  ⟨[]⟩

def ends (g : Graph) : List String :=
  g.arrows.flatMap fun a => [a.source, a.target]

/-- The objects, each once, in the order in which they first appear. -/
def objects (g : Graph) : List String :=
  g.ends.eraseDups

def hasObject (g : Graph) (object : String) : Bool :=
  g.arrows.any (·.touches object)

def arrow? (g : Graph) (name : String) : Option Arrow :=
  g.arrows.find? fun a => a.name = some name

def hasName (g : Graph) (name : String) : Bool :=
  (g.arrow? name).isSome

def edge? (g : Graph) (source target : String) : Option Arrow :=
  g.arrows.find? (·.sameEdge ⟨source, target, none⟩)

def touching (g : Graph) (object : String) : List Arrow :=
  g.arrows.filter (·.touches object)

def add (g : Graph) (a : Arrow) : Graph :=
  ⟨g.arrows ++ [a]⟩

def nameFirst (name source target : String) : List Arrow → List Arrow
  | [] => []
  | a :: as =>
    if a.sameEdge ⟨source, target, none⟩ then { a with name := some name } :: as
    else a :: nameFirst name source target as

def nameEdge (g : Graph) (name source target : String) : Graph :=
  ⟨nameFirst name source target g.arrows⟩

/-- The edges as a renderer takes them, one text for each arrow. -/
def edgePairs (g : Graph) : List String :=
  g.arrows.map fun a => a.source ++ "-" ++ a.target

@[simp] theorem arrows_empty : empty.arrows = [] := rfl

@[simp] theorem arrows_add (g : Graph) (a : Arrow) : (g.add a).arrows = g.arrows ++ [a] := rfl

theorem arrow?_some {g : Graph} {name : String} {a : Arrow} (found : g.arrow? name = some a) :
    a ∈ g.arrows ∧ a.name = some name :=
  ⟨List.mem_of_find?_eq_some found, by simpa using List.find?_some found⟩

theorem hasName_iff {g : Graph} {name : String} :
    g.hasName name = true ↔ ∃ a ∈ g.arrows, a.name = some name := by
  simp [hasName, arrow?]

theorem edge?_some {g : Graph} {source target : String} {a : Arrow}
    (found : g.edge? source target = some a) :
    a ∈ g.arrows ∧ a.source = source ∧ a.target = target :=
  ⟨List.mem_of_find?_eq_some found, by simpa [Arrow.sameEdge] using List.find?_some found⟩

theorem edge?_none_iff {g : Graph} {source target : String} :
    g.edge? source target = none ↔ ∀ a ∈ g.arrows, a.source = source → a.target ≠ target := by
  simp [edge?, Arrow.sameEdge]

theorem mem_ends {g : Graph} {object : String} :
    object ∈ g.ends ↔ ∃ a ∈ g.arrows, object = a.source ∨ object = a.target := by
  simp [ends]

theorem hasObject_iff {g : Graph} {object : String} :
    g.hasObject object = true ↔ ∃ a ∈ g.arrows, object = a.source ∨ object = a.target := by
  simp [hasObject, Arrow.touches]

theorem mem_objects_iff_hasObject {g : Graph} {object : String} :
    object ∈ g.objects ↔ g.hasObject object = true := by
  rw [objects, List.mem_eraseDups, mem_ends, hasObject_iff]

theorem nameEdge_ends (g : Graph) (name source target : String) :
    (g.nameEdge name source target).ends = g.ends := by
  simp only [ends, nameEdge]
  induction g.arrows with
  | nil => rfl
  | cons a as ih =>
    rw [nameFirst]
    split
    · simp
    · simp [ih]

end Graph
end ArrowGraph
