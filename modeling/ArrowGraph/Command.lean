import ArrowGraph.Text.Quoted

namespace ArrowGraph

/-- One thing to ask of a graph, or to do to it. -/
inductive Statement where
  | skip
  /-- Say what stands behind a name. -/
  | describe (name : String)
  | findRoute (origin destination : String)
  | draw (source target : String)
  /-- Draw an arrow with a name, or give an arrow its name. -/
  | drawNamed (name source target : String)
  /-- Draw the composite of two named arrows; `inner` is applied first. -/
  | compose (outer inner : String)
  | composeNamed (name outer inner : String)
  | drawChain (objects : List String)
  /-- Draw an arrow between each two neighbours, and name the one from the first to the last. -/
  | drawNamedChain (name : String) (objects : List String)
  /-- Draw the composites of a row of named arrows; the last is applied first. -/
  | composeChain (arrows : List String)
  /-- Draw the composites of a row of named arrows, and name that of all. -/
  | composeNamedChain (name : String) (arrows : List String)
  /-- A request that says nothing about what is wanted. -/
  | unspecified
  deriving DecidableEq, Repr

namespace Statement

def title : Statement → String
  | .skip => "Noop"
  | .describe .. => "QueryEntity"
  | .findRoute .. => "QueryRoute"
  | .draw .. => "DrawArrow"
  | .drawNamed .. => "DrawNamedArrow"
  | .compose .. => "ComposeArrows"
  | .composeNamed .. => "DrawNamedComposition"
  | .drawChain .. => "DrawLinkedArrows"
  | .drawNamedChain .. => "DrawNamedArrowLinks"
  | .composeChain .. => "DrawChainedComposition"
  | .composeNamedChain .. => "DrawNamedCompositionChain"
  | .unspecified => "Command"

def fields : Statement → List (String × String)
  | .skip | .unspecified => []
  | .describe name => [("name", Text.quote name)]
  | .findRoute origin destination =>
    [("origin", Text.quote origin), ("destination", Text.quote destination)]
  | .draw source target => [("source", Text.quote source), ("target", Text.quote target)]
  | .drawNamed name source target =>
    [("name", Text.quote name), ("source", Text.quote source), ("target", Text.quote target)]
  | .compose outer inner => [("source", Text.quote outer), ("target", Text.quote inner)]
  | .composeNamed name outer inner =>
    [("name", Text.quote name), ("first_arrow", Text.quote outer),
      ("second_arrow", Text.quote inner)]
  | .drawChain objects => [("objects", Text.quoteTuple objects)]
  | .drawNamedChain name objects =>
    [("name", Text.quote name), ("objects", Text.quoteTuple objects)]
  | .composeChain arrows => [("arrows", Text.quoteTuple arrows)]
  | .composeNamedChain name arrows =>
    [("name", Text.quote name), ("arrows", Text.quoteTuple arrows)]

def display (s : Statement) : String :=
  s.title ++ "(" ++ ", ".intercalate (s.fields.map fun f => f.1 ++ "=" ++ f.2) ++ ")"

end Statement

/-- A statement, or commands that are carried out one after another. -/
inductive Command where
  | single (statement : Statement)
  | batch (commands : List Command)
  deriving Repr, Inhabited

namespace Command

mutual

def decEq : (a b : Command) → Decidable (a = b)
  | .single s, .single t =>
    if h : s = t then isTrue (h ▸ rfl) else isFalse fun same => h (single.inj same)
  | .batch as, .batch bs =>
    match decEqEach as bs with
    | isTrue h => isTrue (h ▸ rfl)
    | isFalse h => isFalse fun same => h (batch.inj same)
  | .single _, .batch _ => isFalse nofun
  | .batch _, .single _ => isFalse nofun

def decEqEach : (as bs : List Command) → Decidable (as = bs)
  | [], [] => isTrue rfl
  | [], _ :: _ => isFalse nofun
  | _ :: _, [] => isFalse nofun
  | a :: as, b :: bs =>
    match decEq a b, decEqEach as bs with
    | isTrue h, isTrue t => isTrue (h ▸ t ▸ rfl)
    | isFalse h, _ => isFalse fun same => h (List.cons.inj same).1
    | _, isFalse t => isFalse fun same => t (List.cons.inj same).2

end

instance : DecidableEq Command := decEq

def title : Command → String
  | .single s => s.title
  | .batch _ => "CommandList"

mutual

def display : Command → String
  | .single s => s.display
  | .batch commands =>
    "CommandList(subcommands=" ++ Text.tuple (displayEach commands) ++ ")"

def displayEach : List Command → List String
  | [] => []
  | c :: cs => display c :: displayEach cs

end

end Command
end ArrowGraph
