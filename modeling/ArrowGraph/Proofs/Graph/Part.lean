import ArrowGraph.Proofs.Graph.Later

namespace ArrowGraph.Graph

/-- Each arrow of the first graph is drawn in the second. Both are well-formed. -/
structure PartOf (g h : Graph) : Prop where
  part : g.WellFormed
  whole : h.WellFormed
  drawn : ∀ a ∈ g.arrows, h.Has a

variable {g h : Graph} {a : Arrow}

theorem Later.partOf (later : g.Later h) : g.PartOf h := by
  refine ⟨later.start.toWellFormed, later.now.toWellFormed, ?_⟩
  intro a member
  refine later.grown.has ?_ ⟨a, member, rfl, rfl, .inr rfl⟩
  intro named
  exact later.start.shown (Graph.mem_names.mpr ⟨a, member, named⟩)

theorem PartOf.ends (part : g.PartOf h) : g.ends ⊆ h.ends := by
  intro object member
  obtain ⟨a, here, touched⟩ := mem_ends.mp member
  obtain ⟨starts, ends⟩ := mem_ends_of_edge (part.drawn a here).edge
  rcases touched with rfl | rfl
  · exact starts
  · exact ends

theorem PartOf.named {name : String} (part : g.PartOf h) (member : a ∈ g.arrows)
    (named : a.name = some name) :
    ∃ b ∈ h.arrows, b.source = a.source ∧ b.target = a.target ∧ b.name = some name := by
  obtain ⟨b, there, starts, ends, same⟩ := part.drawn a member
  refine ⟨b, there, starts, ends, ?_⟩
  simpa [named] using same

theorem PartOf.names (part : g.PartOf h) : g.names ⊆ h.names := by
  intro name member
  obtain ⟨a, here, named⟩ := mem_names.mp member
  obtain ⟨b, there, _, _, same⟩ := part.named here named
  exact mem_names.mpr ⟨b, there, same⟩

theorem PartOf.isSuccess_draw {source target : String} (part : g.PartOf h)
    (edge : h.Edge source target) : (g.draw source target).2.isSuccess = true := by
  obtain ⟨isSource, isTarget⟩ := mem_ends_of_edge edge
  rw [isSuccess_draw_iff]
  constructor
  · intro isName
    exact part.whole.apart source (part.names isName) isSource
  · intro isName
    exact part.whole.apart target (part.names isName) isTarget

theorem PartOf.ends_of_name {name source target : String} (part : g.PartOf h)
    (member : a ∈ g.arrows) (named : a.name = some name)
    (has : h.Has ⟨source, target, some name⟩) : a.source = source ∧ a.target = target := by
  obtain ⟨b, there, starts, ends, same⟩ := part.named member named
  obtain ⟨c, there', starts', ends', same'⟩ := has
  obtain rfl := part.whole.same_name there there' same (by simpa using same')
  exact ⟨starts.symm.trans starts', ends.symm.trans ends'⟩

theorem PartOf.name_of_ends {name old : String} (part : g.PartOf h) (member : a ∈ g.arrows)
    (named : a.name = some old) (has : h.Has ⟨a.source, a.target, some name⟩) : old = name := by
  obtain ⟨b, there, starts, ends, same⟩ := part.named member named
  obtain ⟨c, there', starts', ends', same'⟩ := has
  obtain rfl := part.whole.same_edge there there' (starts.trans starts'.symm) (ends.trans ends'.symm)
  have same' : b.name = some name := by simpa using same'
  exact Option.some.inj (same.symm.trans same')

theorem PartOf.isSuccess_drawNamed {name source target : String} (part : g.PartOf h)
    (has : h.Has ⟨source, target, some name⟩) :
    (g.drawNamed name source target).2.isSuccess = true := by
  obtain ⟨isSource, isTarget⟩ := mem_ends_of_edge has.edge
  have apart : name ∉ h.ends := by
    obtain ⟨b, there, _, _, named⟩ := has
    exact part.whole.apart name (mem_names.mpr ⟨b, there, by simpa using named⟩)
  have noObject : name ∉ g.ends ∧ name ≠ source ∧ name ≠ target := by
    refine ⟨fun object => apart (part.ends object), ?_, ?_⟩
    · rintro rfl
      exact apart isSource
    · rintro rfl
      exact apart isTarget
  rw [isSuccess_drawNamed_iff]
  refine ⟨noObject, isSuccess_draw_iff.mp (part.isSuccess_draw has.edge), ?_⟩
  by_cases isName : name ∈ g.names
  · obtain ⟨b, here, named⟩ := mem_names.mp isName
    obtain ⟨rfl, rfl⟩ := part.ends_of_name here named has
    rw [part.part.edge? here]
    exact .inl named
  · refine .inr ⟨?_, isName⟩
    cases found : g.edge? source target with
    | none => rfl
    | some b =>
      obtain ⟨here, rfl, rfl⟩ := edge?_some found
      by_contra shows
      obtain ⟨old, shown⟩ := Option.ne_none_iff_exists'.mp shows
      have named : b.name = some old := (Option.filter_eq_some_iff.mp shown).1
      obtain rfl := part.name_of_ends here named has
      exact isName (mem_names.mpr ⟨b, here, named⟩)

/-- What the whole has is drawn on the part without refusal, and the part stays one. -/
theorem PartOf.attempt (part : g.PartOf h) (has : h.Has a) :
    (g.attempt a).2.isSuccess = true ∧ (g.attempt a).1.PartOf h := by
  constructor
  · obtain ⟨source, target, name⟩ := a
    cases name with
    | none => exact part.isSuccess_draw has.edge
    | some name => exact part.isSuccess_drawNamed has
  · refine ⟨part.part.attempt a, part.whole, ?_⟩
    have outcome := g.attempt_outcome a
    generalize g.attempt a = result at outcome ⊢
    cases outcome with
    | refused | present => exact part.drawn
    | added =>
      intro b member
      rcases List.mem_append.mp member with old | new
      · exact part.drawn b old
      · obtain rfl := List.mem_singleton.mp new
        exact has
    | @named name b _ asked found _ =>
      obtain ⟨before, after, whole, split⟩ := nameEdge_split name found
      obtain ⟨_, starts, ends⟩ := edge?_some found
      intro c member
      rw [split, List.mem_append, List.mem_cons] at member
      rcases member with first | rfl | last
      · exact part.drawn c (whole ▸ List.mem_append_left _ first)
      · obtain ⟨d, there, starts', ends', same⟩ := has
        refine ⟨d, there, starts'.trans starts.symm, ends'.trans ends.symm, ?_⟩
        exact .inr (by simpa [asked] using same)
      · exact part.drawn c (whole ▸ List.mem_append_right _ (List.mem_cons_of_mem _ last))

theorem PartOf.perm (there : g.PartOf h) (back : h.PartOf g) : g.arrows.Perm h.arrows := by
  have sub {k l : Graph} (part : k.PartOf l) (other : l.PartOf k) : k.arrows ⊆ l.arrows := by
    intro a member
    obtain ⟨b, inside, starts, ends, name⟩ := part.drawn a member
    obtain ⟨c, member', starts', ends', name'⟩ := other.drawn b inside
    obtain rfl : a = c :=
      part.part.same_edge member member' (starts'.trans starts).symm (ends'.trans ends).symm
    have same : a.name = b.name := by
      rcases name with unnamed | same
      · rcases name' with unnamed' | same
        · rw [unnamed, unnamed']
        · exact same
      · exact same.symm
    obtain ⟨source, target, label⟩ := a
    obtain ⟨source', target', label'⟩ := b
    cases starts
    cases ends
    cases same
    exact inside
  have distinct {k : Graph} (legal : k.WellFormed) : k.arrows.Nodup := legal.edges.of_map _
  refine (List.perm_ext_iff_of_nodup (distinct there.part) (distinct back.part)).mpr ?_
  intro a
  exact ⟨fun member => sub there back member, fun member => sub back there member⟩

end ArrowGraph.Graph
