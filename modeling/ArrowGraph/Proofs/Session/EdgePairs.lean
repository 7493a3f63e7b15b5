import ArrowGraph.Proofs.Session.Replay

namespace ArrowGraph

/-- The step is a line or a reset, and not a command from elsewhere. -/
def Step.Typed : Step → Prop
  | .apply _ => False
  | .evaluate _ | .reset => True

namespace Graph

variable {g : Graph}

theorem words_after {step : Step} (typed : step.Typed) {word : String}
    (member : word ∈ (step.after g).words) :
    word ∈ g.words ∨ ∃ line, step = .evaluate line ∧ word ∈ Token.labelsOf line := by
  cases step with
  | apply => cases typed
  | reset => cases member
  | evaluate line =>
    rcases List.mem_append.mp (words_evaluate g line member) with old | new
    · exact .inl old
    · exact .inr ⟨line, rfl, new⟩

theorem words_follow {steps : List Step} (typed : ∀ step ∈ steps, step.Typed) {word : String}
    (member : word ∈ (g.follow steps).words) :
    word ∈ g.words ∨ ∃ line, .evaluate line ∈ steps ∧ word ∈ Token.labelsOf line := by
  induction steps generalizing g with
  | nil => exact .inl member
  | cons step steps ih =>
    obtain ⟨first, others⟩ := List.forall_mem_cons.mp typed
    rcases ih others member with before | ⟨line, later, label⟩
    · rcases words_after first before with old | ⟨line, rfl, label⟩
      · exact .inl old
      · exact .inr ⟨line, List.mem_cons_self .., label⟩
    · exact .inr ⟨line, List.mem_cons_of_mem _ later, label⟩

theorem legal_follow {steps : List Step} (typed : ∀ step ∈ steps, step.Typed) :
    (empty.follow steps).Legal := by
  refine ⟨wellFormed_empty.follow steps, ?_⟩
  intro word member
  rcases words_follow typed member with old | ⟨line, _, label⟩
  · cases old
  · exact Token.isLabel_of_mem_labelsOf label

def splitPair (entry : String) : List String :=
  (entry.toList.splitOn '-').map String.ofList

theorem toList_pair (source target : String) :
    (source ++ "-" ++ target).toList = source.toList ++ '-' :: target.toList := by
  simp

theorem splitPair_append {source target : String} (noDash : '-' ∉ source.toList)
    (noDash' : '-' ∉ target.toList) : splitPair (source ++ "-" ++ target) = [source, target] := by
  rw [splitPair, toList_pair, List.splitOn_append_cons_self_of_not_mem noDash,
    List.splitOn_eq_singleton noDash']
  simp

theorem count_pair {source target : String} (noDash : '-' ∉ source.toList)
    (noDash' : '-' ∉ target.toList) : (source ++ "-" ++ target).toList.count '-' = 1 := by
  rw [toList_pair, List.count_append, List.count_cons_self, List.count_eq_zero_of_not_mem noDash,
    List.count_eq_zero_of_not_mem noDash']

theorem Legal.noDash (legal : g.Legal) {a : Arrow} (member : a ∈ g.arrows) :
    '-' ∉ a.source.toList ∧ '-' ∉ a.target.toList := by
  have labelled := legal.labelled a member
  exact ⟨labelled.source.not_mem (by decide), labelled.target.not_mem (by decide)⟩

theorem Legal.splitPair_edgePairs (legal : g.Legal) :
    g.edgePairs.map splitPair = g.arrows.map fun a => [a.source, a.target] := by
  rw [edgePairs, List.map_map]
  refine List.map_congr_left fun a member => ?_
  obtain ⟨noDash, noDash'⟩ := legal.noDash member
  exact splitPair_append noDash noDash'

theorem Legal.count_edgePairs (legal : g.Legal) :
    ∀ entry ∈ g.edgePairs, entry.toList.count '-' = 1 := by
  rw [edgePairs, List.forall_mem_map]
  intro a member
  obtain ⟨noDash, noDash'⟩ := legal.noDash member
  exact count_pair noDash noDash'

theorem Legal.nodup_edgePairs (legal : g.Legal) : g.edgePairs.Nodup := by
  refine List.Nodup.of_map splitPair ?_
  have edges : (g.arrows.map fun a => [a.source, a.target]) =
      g.edges.map fun edge => [edge.1, edge.2] := by
    simp [Graph.edges]
  rw [legal.splitPair_edgePairs, edges]
  refine legal.edges.map ?_
  rintro ⟨source, target⟩ ⟨source', target'⟩ same
  simpa using same

/-- After any lines and resets, each word of the graph is a label of one of the lines. The edge
pairs differ from each other, each has one dash, and they part there into the ends of the arrows in
order. -/
theorem names_come_from_lines {steps : List Step} (typed : ∀ step ∈ steps, step.Typed) :
    let g := empty.follow steps
    (∀ word ∈ g.words, IsLabel word ∧ ∃ line tokens token, .evaluate line ∈ steps ∧
      Token.scan line = .ok tokens ∧ token ∈ tokens ∧ token.kind = .label ∧ token.text = word) ∧
    g.edgePairs.Nodup ∧ (∀ entry ∈ g.edgePairs, entry.toList.count '-' = 1) ∧
    g.edgePairs.map splitPair = g.arrows.map fun a => [a.source, a.target] := by
  have legal := legal_follow typed
  refine ⟨?_, legal.nodup_edgePairs, legal.count_edgePairs, legal.splitPair_edgePairs⟩
  intro word member
  refine ⟨legal.labels word member, ?_⟩
  rcases words_follow typed member with old | ⟨line, evaluated, label⟩
  · cases old
  · obtain ⟨tokens, scanned, token, inside, isLabel, same⟩ := Token.mem_labelsOf.mp label
    exact ⟨line, tokens, token, evaluated, scanned, inside, isLabel, same⟩

/-- The first arrow is forgotten, two arrows do not meet, a line does not fall into tokens, and a
name is refused. -/
theorem names_come_from_lines_reset :
    let steps : List Step := [.evaluate "x -> y", .reset, .evaluate "f: a -> b; b -> c'",
      .evaluate "c' -> 'a; f . f", .evaluate "f: 1", .evaluate "a: b -> b"]
    let g := empty.follow steps
    (∀ step ∈ steps, step.Typed) ∧ g.edgePairs = ["a-b", "b-c'", "c'-'a"] ∧
    (∀ word ∈ g.words, IsLabel word ∧ ∃ line tokens token, .evaluate line ∈ steps ∧
      Token.scan line = .ok tokens ∧ token ∈ tokens ∧ token.kind = .label ∧ token.text = word) ∧
    g.edgePairs.Nodup ∧ (∀ entry ∈ g.edgePairs, entry.toList.count '-' = 1) ∧
    g.edgePairs.map splitPair = g.arrows.map fun a => [a.source, a.target] := by
  intro steps g
  have typed : ∀ step ∈ steps, step.Typed := by simp [steps, Step.Typed]
  exact ⟨typed, by decide +kernel, names_come_from_lines typed⟩

end Graph
end ArrowGraph
