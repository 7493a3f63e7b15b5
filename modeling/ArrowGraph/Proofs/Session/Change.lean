import ArrowGraph.Proofs.Session.Replay
import ArrowGraph.Proofs.Text.Joined

/-! Changes as messages tell them. A message falls into lines, and a line that begins with one of
two phrases tells a change; it names the arrow in the way in which arrows are written. When all
words are labels, the text of a notice is one line, and that tells the change that the notice is
about. -/
namespace ArrowGraph

/-- A change of a graph, as one line tells it. -/
inductive Change where
  | drew (arrow : Arrow)
  | named (name source target : String)
  deriving DecidableEq, Repr

namespace Change

def pieces (line : String) : List String :=
  (line.toList.splitOn ' ').map String.ofList

def tag? (piece : String) : Option String :=
  if piece.toList.getLast? = some ':' then some (String.ofList piece.toList.dropLast) else none

def arrow? : List String → Option Arrow
  | [source, "->", target] => some ⟨source, target, none⟩
  | [piece, source, "->", target] => (tag? piece).map fun name => ⟨source, target, some name⟩
  | _ => none

/-- The change that a line tells, if it tells one. -/
def ofLine? (line : String) : Option Change :=
  match pieces line with
  | "Drew" :: "arrow" :: rest => (arrow? rest).map .drew
  | "Named" :: "arrow" :: rest =>
    (arrow? rest).bind fun a => a.name.map fun name => .named name a.source a.target
  | _ => none

/-- The changes that the lines of a message tell, in order. -/
def ofMessage (message : String) : List Change :=
  (message.toList.splitOn '\n').filterMap fun line => ofLine? (String.ofList line)

/-- Carry out a change: one more arrow, or a name for an edge that is there. -/
def make (g : Graph) : Change → Graph
  | drew arrow => g.add arrow
  | named name source target => g.nameEdge name source target

def arrow : Change → Arrow
  | drew arrow => arrow
  | named name source target => ⟨source, target, some name⟩

end Change

/-- Carry out the changes that a message tells. -/
def Graph.replay (g : Graph) (message : String) : Graph :=
  (Change.ofMessage message).foldl Change.make g

def Report.changes (report : Report) : List Change :=
  Change.ofMessage report.message

namespace Notice

def change? : Notice → Option Change
  | .drew arrow => some (.drew arrow)
  | .named arrow => arrow.name.map fun name => .named name arrow.source arrow.target
  | _ => none

def labels : Notice → List String
  | .drew arrow | .named arrow | .present arrow | .isArrow arrow => arrow.labels
  | .endIsArrow | .nameIsObject => []
  | .edgeIsNamed source target name => [source, target, name]
  | .nameIsTaken name | .nothingNamed name | .noArrow name => [name]
  | .isObject name touching => name :: touching.flatMap Arrow.labels
  | .routeFound objects => objects
  | .noRoute origin destination => [origin, destination]

end Notice

theorem Arrow.labelled_iff {a : Arrow} : a.Labelled ↔ ∀ word ∈ a.labels, IsLabel word := by
  constructor
  · intro labelled
    simp only [Arrow.labels, List.forall_mem_cons, Option.mem_toList]
    exact ⟨labelled.source, labelled.target, labelled.name⟩
  · intro legal
    simp only [Arrow.labels, List.forall_mem_cons, Option.mem_toList] at legal
    exact ⟨legal.1, legal.2.1, legal.2.2⟩

namespace Change

theorem pieces_cons {word : String} (plain : ' ' ∉ word.toList) (rest : String) :
    pieces (word ++ " " ++ rest) = word :: pieces rest := by
  have chars : (word ++ " " ++ rest).toList = word.toList ++ ' ' :: rest.toList := by simp
  rw [pieces, chars, List.splitOn_append_cons_self_of_not_mem plain, List.map_cons,
    String.ofList_toList, pieces]

theorem pieces_plain {word : String} (plain : ' ' ∉ word.toList) : pieces word = [word] := by
  rw [pieces, List.splitOn_eq_singleton plain, List.map_singleton, String.ofList_toList]

theorem tag?_append (name : String) : tag? (name ++ ":") = some name := by
  simp [tag?]

theorem arrow?_of_short {pieces : List String} (short : pieces.length < 3) :
    arrow? pieces = none := by
  unfold arrow?
  split
  · simp at short
  · simp at short
  · rfl

theorem ofLine?_eq_none {line : String}
    (silent : ∀ verb rest, pieces line = verb :: "arrow" :: rest →
      verb = "Drew" ∨ verb = "Named" → rest.length < 3) : ofLine? line = none := by
  unfold ofLine?
  split
  · rename_i rest shape
    rw [arrow?_of_short (silent _ rest shape (.inl rfl)), Option.map_none]
  · rename_i rest shape
    rw [arrow?_of_short (silent _ rest shape (.inr rfl)), Option.bind_none]
  · rfl

theorem ofLine?_of_verb {line : String} (verb : String) (begins : (verb ++ " ").toList <+: line.toList)
    (plain : ' ' ∉ verb.toList) (other : ¬ (verb = "Drew" ∨ verb = "Named")) :
    ofLine? line = none := by
  obtain ⟨rest, chars⟩ := begins
  have split : line = verb ++ " " ++ String.ofList rest := by
    apply String.toList_injective
    rw [String.toList_append, chars.symm, String.toList_ofList]
  refine ofLine?_eq_none fun _ _ shape phrase => ?_
  rw [split, pieces_cons plain] at shape
  obtain ⟨rfl, _⟩ := List.cons.inj shape
  exact absurd phrase other

theorem ofLine?_of_second {line first : String} (second rest : String)
    (split : line = first ++ " " ++ (second ++ " " ++ rest)) (plain : ' ' ∉ first.toList)
    (plain' : ' ' ∉ second.toList) (other : second ≠ "arrow") : ofLine? line = none := by
  refine ofLine?_eq_none fun _ _ shape _ => ?_
  rw [split, pieces_cons plain, pieces_cons plain'] at shape
  obtain ⟨_, others⟩ := List.cons.inj shape
  exact absurd (List.cons.inj others).1 other

theorem ofLine?_of_short {line : String} (short : (pieces line).length < 5) :
    ofLine? line = none := by
  refine ofLine?_eq_none fun _ _ shape _ => ?_
  rw [shape] at short
  simp only [List.length_cons] at short
  omega

end Change

namespace Arrow

variable {a : Arrow}

def pieces (a : Arrow) : List String :=
  match a.name with
  | none => [a.source, "->", a.target]
  | some name => [name ++ ":", a.source, "->", a.target]

theorem Labelled.pieces_text (labelled : a.Labelled) : Change.pieces a.text = a.pieces := by
  obtain ⟨source, target, name⟩ := a
  have starts : ' ' ∉ source.toList := labelled.source.not_mem rfl
  have ends : ' ' ∉ target.toList := labelled.target.not_mem rfl
  have edge : Change.pieces (source ++ " -> " ++ target) = [source, "->", target] := by
    have split : source ++ " -> " ++ target = source ++ " " ++ ("->" ++ " " ++ target) := by
      apply String.toList_injective
      simp
    rw [split, Change.pieces_cons starts, Change.pieces_cons (by decide), Change.pieces_plain ends]
  cases name with
  | none => exact edge
  | some name =>
    have legal := labelled.name name rfl
    have tagged : ' ' ∉ (name ++ ":").toList := by
      simpa using legal.not_mem rfl
    have split : name ++ ": " ++ (source ++ " -> " ++ target) =
        name ++ ":" ++ " " ++ (source ++ " -> " ++ target) := by
      apply String.toList_injective
      simp
    rw [text_of_some legal.ne_empty, split, Change.pieces_cons tagged, edge]
    rfl

theorem arrow?_pieces (a : Arrow) : Change.arrow? a.pieces = some a := by
  obtain ⟨source, target, name⟩ := a
  cases name with
  | none => rfl
  | some name => simp [pieces, Change.arrow?, Change.tag?_append]

theorem Labelled.not_mem_text (labelled : a.Labelled) : '\n' ∉ a.text.toList := by
  obtain ⟨source, target, name⟩ := a
  have starts : '\n' ∉ source.toList := labelled.source.not_mem rfl
  have ends : '\n' ∉ target.toList := labelled.target.not_mem rfl
  cases name with
  | none => simp [text_of_none, starts, ends]
  | some name =>
    have legal := labelled.name name rfl
    have plain : '\n' ∉ name.toList := legal.not_mem rfl
    simp [text_of_some legal.ne_empty, starts, ends, plain]

end Arrow

namespace Notice

open Change (ofLine? pieces)

variable {n : Notice}

theorem ofLine?_drew {a : Arrow} (labelled : a.Labelled) :
    ofLine? ("Drew arrow " ++ a.text) = some (.drew a) := by
  have shape : pieces ("Drew arrow " ++ a.text) = "Drew" :: "arrow" :: a.pieces := by
    rw [← labelled.pieces_text, pieces, String.toList_append]
    rfl
  have told : (Change.arrow? a.pieces).map .drew = some (Change.drew a) := by
    rw [a.arrow?_pieces, Option.map_some]
  rw [ofLine?, shape]
  exact told

theorem ofLine?_named {a : Arrow} (labelled : a.Labelled) :
    ofLine? ("Named arrow " ++ a.text) = (named a).change? := by
  have shape : pieces ("Named arrow " ++ a.text) = "Named" :: "arrow" :: a.pieces := by
    rw [← labelled.pieces_text, pieces, String.toList_append]
    rfl
  have told : (Change.arrow? a.pieces).bind (fun b => b.name.map fun name =>
      Change.named name b.source b.target) = (named a).change? := by
    rw [a.arrow?_pieces, Option.bind_some, change?]
  rw [ofLine?, shape]
  exact told

/-- The text of a notice tells the change that the notice is about. -/
theorem ofLine?_text (labelled : ∀ word ∈ n.labels, IsLabel word) : ofLine? n.text = n.change? := by
  cases n with
  | drew a =>
    have arrow : a.Labelled := Arrow.labelled_iff.mpr labelled
    exact ofLine?_drew arrow
  | named a =>
    have arrow : a.Labelled := Arrow.labelled_iff.mpr labelled
    exact ofLine?_named arrow
  | endIsArrow => decide +kernel
  | nameIsObject => decide +kernel
  | present | edgeIsNamed | nameIsTaken =>
    refine Change.ofLine?_of_verb "Arrow" ?_ (by decide) (by decide)
    unfold text
    simp
  | nothingNamed =>
    refine Change.ofLine?_of_verb "Nothing" ?_ (by decide) (by decide)
    unfold text
    simp
  | noArrow | noRoute =>
    refine Change.ofLine?_of_verb "No" ?_ (by decide) (by decide)
    unfold text
    simp
  | isArrow a =>
    have labelled := Arrow.labelled_iff.mpr labelled
    refine Change.ofLine?_of_short ?_
    unfold text
    rw [labelled.pieces_text, Arrow.pieces]
    split <;> simp
  | isObject name touching =>
    have plain : ' ' ∉ name.toList := (labelled name (List.mem_cons_self ..)).not_mem rfl
    refine Change.ofLine?_of_second "is"
      ("an object with arrows: " ++ ", ".intercalate (touching.map Arrow.text)) ?_ plain (by decide)
      (by decide)
    apply String.toList_injective
    unfold text
    simp
  | routeFound objects =>
    cases objects with
    | nil => decide +kernel
    | cons object objects =>
      have plain : ' ' ∉ object.toList := (labelled object (List.mem_cons_self ..)).not_mem rfl
      cases objects with
      | nil =>
        refine Change.ofLine?_of_short ?_
        unfold text
        simp [Change.pieces_plain plain]
      | cons next objects =>
        refine Change.ofLine?_of_second "->" (" -> ".intercalate (next :: objects)) ?_
          plain (by decide) (by decide)
        have joined : (routeFound (object :: next :: objects)).text =
            object ++ " -> " ++ " -> ".intercalate (next :: objects) :=
          String.intercalate_cons_cons ..
        rw [joined]
        apply String.toList_injective
        simp

theorem not_mem_text (labelled : ∀ word ∈ n.labels, IsLabel word) : '\n' ∉ n.text.toList := by
  have plain : ∀ word ∈ n.labels, '\n' ∉ word.toList :=
    fun word member => (labelled word member).not_mem rfl
  cases n with
  | drew a | named a | present a | isArrow a =>
    have arrow := (Arrow.labelled_iff.mpr labelled).not_mem_text
    unfold text
    simp [arrow]
  | endIsArrow | nameIsObject => decide +kernel
  | edgeIsNamed | nameIsTaken | nothingNamed | noArrow | noRoute =>
    simp only [labels, List.forall_mem_cons] at plain
    unfold text
    simp [plain]
  | isObject name touching =>
    obtain ⟨first, others⟩ := List.forall_mem_cons.mp labelled
    have arrows : '\n' ∉ (", ".intercalate (touching.map Arrow.text)).toList := by
      refine Text.not_mem_intercalate (by decide) ?_
      intro t member
      obtain ⟨a, inside, rfl⟩ := List.mem_map.mp member
      refine Arrow.Labelled.not_mem_text (Arrow.labelled_iff.mpr ?_)
      exact fun word label => others word (List.mem_flatMap.mpr ⟨a, inside, label⟩)
    unfold text
    simp only [String.toList_append, List.mem_append, not_or]
    exact ⟨⟨first.not_mem rfl, by decide⟩, arrows⟩
  | routeFound objects => exact Text.not_mem_intercalate (by decide) plain

end Notice

namespace Change

theorem ofMessage_empty : ofMessage "" = [] := by
  decide +kernel

theorem ofMessage_line {text : String} (single : '\n' ∉ text.toList) :
    ofMessage text = (ofLine? text).toList := by
  rw [ofMessage, List.splitOn_eq_singleton single]
  cases tells : ofLine? text <;> simp [String.ofList_toList, tells]

theorem ofMessage_append (first rest : String) :
    ofMessage (first ++ "\n" ++ rest) = ofMessage first ++ ofMessage rest := by
  have chars : (first ++ "\n" ++ rest).toList = first.toList ++ '\n' :: rest.toList := by simp
  rw [ofMessage, chars, List.splitOn_append_cons_self, List.filterMap_append, ofMessage, ofMessage]

theorem ofMessage_intercalate (texts : List String) :
    ofMessage ("\n".intercalate texts) = texts.flatMap ofMessage := by
  induction texts with
  | nil => simp [ofMessage_empty]
  | cons text texts ih =>
    cases texts with
    | nil => simp
    | cons next texts =>
      rw [String.intercalate_cons_cons, ofMessage_append, ih, ← List.flatMap_cons]

end Change

theorem flatMap_filter_ne {α : Type} {f : String → List α} {text : String} {texts : List String}
    (once : ∀ x ∈ f text, x ∉ texts.flatMap f) :
    (texts.filter fun t => !t == text).flatMap f = texts.flatMap f := by
  induction texts with
  | nil => rfl
  | cons t texts ih =>
    have rest := ih fun x given later => once x given (by simp [later])
    by_cases repeated : t = text
    · subst repeated
      have nothing : f t = [] := by
        rw [List.eq_nil_iff_forall_not_mem]
        intro x given
        exact once x given (by simp [given])
      simp [nothing, rest]
    · simp [repeated, rest]

theorem flatMap_eraseDups {α : Type} {f : String → List α} (texts : List String)
    (distinct : (texts.flatMap f).Nodup) : texts.eraseDups.flatMap f = texts.flatMap f := by
  induction h : texts.length using Nat.strongRecOn generalizing texts with
  | ind n ih =>
    cases texts with
    | nil => simp
    | cons text texts =>
      rw [List.flatMap_cons, List.nodup_append] at distinct
      obtain ⟨_, others, apart⟩ := distinct
      have same : (texts.filter fun t => !t == text).flatMap f = texts.flatMap f :=
        flatMap_filter_ne fun x given later => apart x given x later rfl
      have shorter : (texts.filter fun t => !t == text).length ≤ texts.length :=
        List.length_filter_le ..
      simp only [List.length_cons] at h
      have rest := ih _ (by omega) (texts.filter fun t => !t == text) (same ▸ others) rfl
      rw [List.eraseDups_cons, List.flatMap_cons, List.flatMap_cons, rest, same]

namespace Report

/-- Merging loses no change, as long as no change is told twice. -/
theorem changes_merge {reports : List Report} (distinct : (reports.flatMap changes).Nodup) :
    (merge reports).changes = reports.flatMap changes := by
  have silent : (((reports.map message).filter (· ≠ "")).flatMap Change.ofMessage) =
      reports.flatMap changes := by
    induction reports with
    | nil => rfl
    | cons r reports ih =>
      rw [List.flatMap_cons, List.nodup_append] at distinct
      have others := ih distinct.2.1
      by_cases empty : r.message = ""
      · have nothing : r.changes = [] := by rw [changes, empty, Change.ofMessage_empty]
        simp [empty, nothing, ← others]
      · simp [empty, ← others, changes]
  rw [changes, merge, messages, Change.ofMessage_intercalate, ← silent]
  exact flatMap_eraseDups _ (silent ▸ distinct)

end Report

theorem Notice.changes_report {n : Notice} (labelled : ∀ word ∈ n.labels, IsLabel word) :
    n.report.changes = n.change?.toList := by
  rw [Report.changes, report, Change.ofMessage_line (not_mem_text labelled), ofLine?_text labelled]

end ArrowGraph
