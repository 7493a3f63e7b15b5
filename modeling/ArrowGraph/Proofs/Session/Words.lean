import ArrowGraph.Proofs.Command.Labels
import ArrowGraph.Proofs.Expr.Line
import ArrowGraph.Proofs.Session.Step

namespace ArrowGraph

namespace Token

/-- The labels of a line, none if it does not fall into tokens. -/
def labelsOf (line : String) : List String :=
  match scan line with
  | .ok ts => labels ts
  | .error _ => []

theorem mem_labelsOf {line word : String} : word ∈ labelsOf line ↔
    ∃ ts, scan line = .ok ts ∧ ∃ t ∈ ts, t.kind = .label ∧ t.text = word := by
  rw [labelsOf]
  cases scan line with
  | error e => simp
  | ok ts => simp [mem_labels]

theorem isLabel_of_mem_labelsOf {line word : String} (member : word ∈ labelsOf line) :
    IsLabel word := by
  obtain ⟨ts, scanned, t, inside, isLabel, rfl⟩ := mem_labelsOf.mp member
  have spelling := spells_of_scanFrom scanned t inside
  rwa [isLabel] at spelling

end Token

namespace Expr

theorem Reads.labels {first : Token} {rest : List Token} {e : Expr} (reads : Reads first rest e) :
    e.labels ⊆ Token.labels (first :: rest) := by
  induction reads with
  | label isLabel => simp [Expr.labels, Token.labels, isLabel]
  | @link first second third rest _ _ isLabel _ _ ih =>
    rw [Expr.labels, Expr.labels, List.singleton_append, List.cons_subset]
    constructor
    · exact Token.mem_labels.mpr ⟨first, List.mem_cons_self .., isLabel, rfl⟩
    · refine List.Subset.trans ih (Token.labels_subset ?_)
      exact fun t member => List.mem_cons_of_mem _ (List.mem_cons_of_mem _ member)

theorem labels_ofTokens {ts : List Token} {e : Expr} (accepted : ofTokens ts = .ok e) :
    e.labels ⊆ Token.labels ts := by
  rcases ofTokens_cases accepted with ⟨first, rest, rfl, read⟩ | ⟨es, rfl, _, related⟩
  · exact (reads_of_ofStatement read).labels
  · intro word member
    rw [labels, labelsEach_eq, List.mem_flatMap] at member
    obtain ⟨e, inside, member⟩ := member
    obtain ⟨part, segment, read⟩ := exists_of_forall₂ related inside
    have inside := (reads_of_ofStatement read).labels member
    exact Token.labels_subset (mem_of_mem_segments segment) inside

end Expr

theorem Command.labels_ofLine {line : String} {c : Command}
    (accepted : (Command.ofLine line).command = .ok c) : c.labels ⊆ Token.labelsOf line := by
  obtain ⟨ts, tree, scanned, read, meant⟩ := ofLine_eq_ok_iff.mp accepted
  have fewer : Token.significant ts ⊆ ts := List.filter_subset_self ..
  rw [Token.labelsOf, scanned]
  exact List.Subset.trans (labels_ofExpr meant)
    (List.Subset.trans (Expr.labels_ofTokens read) (Token.labels_subset fewer))

namespace Graph

def words (g : Graph) : List String :=
  g.names ++ g.ends

theorem words_apply (g : Graph) (c : Command) : (c.apply g).graph.words ⊆ g.words ++ c.labels := by
  refine (strokes_apply c g).keep (List.subset_append_left ..) ?_
  rintro k a known ⟨s, inside, allowed⟩ word member
  have inLabels (given : word ∈ s.labels) : word ∈ g.words ++ c.labels :=
    List.mem_append_right _ (List.mem_flatMap.mpr ⟨s, inside, given⟩)
  rcases List.mem_append.mp member with isName | isEnd
  · rcases mem_names_attempt isName with old | new
    · exact known (List.mem_append_left _ old)
    · exact inLabels (s.givenNames_subset (allowed.name word new))
  · have inEnds (linked : word ∈ k.ends) : word ∈ g.words ++ c.labels :=
      known (List.mem_append_right _ linked)
    rcases mem_ends_attempt isEnd with old | rfl | rfl
    · exact inEnds old
    · rcases allowed.ends with mentioned | leads
      · exact inLabels (s.objects_subset mentioned.1)
      · exact inEnds (mem_ends_of_leads leads).1
    · rcases allowed.ends with mentioned | leads
      · exact inLabels (s.objects_subset mentioned.2)
      · exact inEnds (mem_ends_of_leads leads).2

theorem words_evaluate (g : Graph) (line : String) :
    (g.evaluate line).graph.words ⊆ g.words ++ Token.labelsOf line := by
  rcases evaluate_graph_cases g line with same | ⟨c, read, applied⟩
  · rw [same]
    exact List.subset_append_left ..
  · rw [applied]
    have fromLine : c.labels ⊆ g.words ++ Token.labelsOf line :=
      List.subset_append_of_subset_right _ (Command.labels_ofLine read)
    exact List.Subset.trans (words_apply g c)
      (List.append_subset.mpr ⟨List.subset_append_left .., fromLine⟩)

end Graph
end ArrowGraph
