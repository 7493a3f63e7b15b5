import ArrowGraph.Proofs.Graph.Trip
import Mathlib.Data.List.Lex

/-! Ties between routes. The trails that wait stand in the order of the places of their arrows, and
none of them could go along earlier ones to where it is. So of all trips that are as short, the
route is the one along the arrows that were drawn first, compared from the origin on. -/
namespace ArrowGraph.Graph

def place (g : Graph) (source target : String) : Nat :=
  g.arrows.findIdx (·.sameEdge ⟨source, target, none⟩)

/-- The places of the first arrows between each two neighbours. -/
def places (g : Graph) : List String → List Nat
  | x :: y :: objects => g.place x y :: places g (y :: objects)
  | _ => []

def TripAt (g : Graph) (origin : String) (places : List Nat) (destination : String) : Prop :=
  ∃ arrows, places.map (g.arrows[·]?) = arrows.map some ∧ g.Trip origin arrows destination

/-- The first list has the smaller place where the two differ first, or ends there. -/
abbrev Sooner : List Nat → List Nat → Prop :=
  List.Lex (· < ·)

def NoLater (places others : List Nat) : Prop :=
  places = others ∨ Sooner places others

variable {g : Graph} {origin destination here x y : String} {objects seen : List String}
  {a : Arrow} {as : List Arrow} {i : Nat} {ps qs : List Nat}

/-! The order of places. -/

theorem Sooner.append (sooner : Sooner ps qs) (same : ps.length = qs.length) (rs ss : List Nat) :
    Sooner (ps ++ rs) (qs ++ ss) := by
  induction sooner with
  | nil => cases same
  | cons _ ih => exact .cons (ih (Nat.succ.inj same))
  | rel less => exact .rel less

theorem Sooner.trans_noLater {rs : List Nat} (sooner : Sooner ps qs) (noLater : NoLater qs rs) :
    Sooner ps rs := by
  rcases noLater with rfl | later
  · exact sooner
  · exact List.lex_trans Nat.lt_trans sooner later

theorem NoLater.concat {j : Nat} (noLater : NoLater ps qs) (same : ps.length = qs.length)
    (less : i ≤ j) : NoLater (ps ++ [i]) (qs ++ [j]) := by
  rcases noLater with rfl | sooner
  · rcases Nat.lt_or_eq_of_le less with earlier | rfl
    · exact .inr (.append_left _ (.rel earlier) ps)
    · exact .inl rfl
  · exact .inr (sooner.append same _ _)

/-! Places of arrows. -/

theorem place_le (here : g.arrows[i]? = some a) : g.place a.source a.target ≤ i := by
  obtain ⟨inside, rfl⟩ := List.getElem?_eq_some_iff.mp here
  by_contra later
  have other := List.not_of_lt_findIdx (Nat.lt_of_not_le later)
  simp [Arrow.sameEdge] at other

theorem getElem?_place (edge : g.Edge x y) :
    ∃ a, g.arrows[g.place x y]? = some a ∧ a.source = x ∧ a.target = y := by
  obtain ⟨a, drawn, rfl, rfl⟩ := edge_iff.mp edge
  have inside : g.place a.source a.target < g.arrows.length :=
    List.findIdx_lt_length.mpr ⟨a, drawn, by simp [Arrow.sameEdge]⟩
  refine ⟨_, List.getElem?_eq_getElem inside, ?_⟩
  obtain ⟨starts, ends⟩ := Bool.and_eq_true_iff.mp (List.findIdx_getElem (w := inside))
  exact ⟨of_decide_eq_true starts, of_decide_eq_true ends⟩

theorem length_places (objects : List String) : (g.places objects).length = objects.length - 1 := by
  fun_induction places g objects with
  | case1 x y objects ih => simpa using ih
  | case2 objects short =>
    match objects with
    | [] | [_] => rfl
    | x :: y :: objects => exact absurd rfl (short x y objects)

theorem places_concat (ends : objects.getLast? = some x) (y : String) :
    g.places (objects ++ [y]) = g.places objects ++ [g.place x y] := by
  induction objects with
  | nil => cases ends
  | cons z objects ih =>
    cases objects with
    | nil =>
      obtain rfl := Option.some.inj ends
      rfl
    | cons w objects =>
      rw [List.getLast?_cons_cons] at ends
      exact congrArg (g.place z w :: ·) (ih ends)

theorem Trip.eq_of_nil (trip : g.Trip x [] y) : x = y := by
  cases trip
  rfl

theorem Trip.of_concat {arrows : List Arrow} (trip : g.Trip origin (arrows ++ [a]) destination) :
    g.Trip origin arrows a.source ∧ a.target = destination := by
  generalize whole : arrows ++ [a] = row at trip
  induction trip generalizing arrows with
  | stay => simp at whole
  | go drawn others ih =>
    cases arrows with
    | nil =>
      obtain ⟨rfl, rfl⟩ := List.cons.inj whole
      exact ⟨.stay _, others.eq_of_nil⟩
    | cons b arrows =>
      obtain ⟨rfl, rest⟩ := List.cons.inj whole
      obtain ⟨before, ends⟩ := ih rest
      exact ⟨.go drawn before, ends⟩

theorem TripAt.of_concat (trip : g.TripAt origin (ps ++ [i]) destination) :
    ∃ a, g.arrows[i]? = some a ∧ a.target = destination ∧ g.TripAt origin ps a.source := by
  obtain ⟨arrows, placed, trip⟩ := trip
  rw [List.map_append, List.map_singleton] at placed
  rcases List.eq_nil_or_concat' arrows with rfl | ⟨before, a, rfl⟩
  · simp at placed
  · rw [List.map_append, List.map_singleton] at placed
    obtain ⟨first, last⟩ := List.append_inj' placed rfl
    obtain ⟨trip, ends⟩ := trip.of_concat
    exact ⟨a, (List.cons.inj last).1, ends, before, first, trip⟩

theorem TripAt.within (trip : g.TripAt origin ps x) : g.Within origin ps.length x := by
  obtain ⟨arrows, placed, trip⟩ := trip
  have same : ps.length = arrows.length := by simpa using congrArg List.length placed
  have near := (Within.start (g := g) 0).walk trip.walk
  simpa [objectsAlong, same] using near

theorem Walk.trip_places (walk : g.Walk origin destination objects) :
    ∃ arrows, (g.places objects).map (g.arrows[·]?) = arrows.map some ∧
      g.Trip origin arrows destination ∧ objectsAlong origin arrows = objects := by
  obtain ⟨starts, ends, linked⟩ := walk
  induction objects generalizing origin with
  | nil => cases starts
  | cons x objects ih =>
    obtain rfl := Option.some.inj starts
    cases objects with
    | nil =>
      obtain rfl := Option.some.inj ends
      exact ⟨[], rfl, .stay _, rfl⟩
    | cons y objects =>
      obtain ⟨edge, others⟩ := List.isChain_cons_cons.mp linked
      rw [List.getLast?_cons_cons] at ends
      obtain ⟨arrows, placed, trip, along⟩ := ih rfl ends others
      obtain ⟨a, first, rfl, rfl⟩ := getElem?_place edge
      refine ⟨a :: arrows, ?_, .go (List.mem_of_getElem? first) trip, ?_⟩
      · rw [places, List.map_cons, List.map_cons, first, placed]
      · rw [← along]
        rfl

/-! The order in which objects are reached. -/

theorem place_cons_of_ne (other : ¬ (a.source = here ∧ a.target = y)) :
    place ⟨a :: as⟩ here y = place ⟨as⟩ here y + 1 := by
  have apart : a.sameEdge ⟨here, y, none⟩ = false := by simpa [Arrow.sameEdge] using other
  simp [place, List.findIdx_cons, apart]

theorem onward_pairwise (as : List Arrow) (seen : List String) (here : String) :
    (onward ⟨as⟩ seen here).Pairwise fun x y => place ⟨as⟩ here x < place ⟨as⟩ here y := by
  induction as generalizing seen with
  | nil => exact .nil
  | cons a as ih =>
    have later {seen : List String}
        (apart : ∀ x ∈ onward ⟨as⟩ seen here, ¬ (a.source = here ∧ a.target = x)) :
        (onward ⟨as⟩ seen here).Pairwise
          fun x y => place ⟨a :: as⟩ here x < place ⟨a :: as⟩ here y := by
      refine (ih seen).imp_of_mem ?_
      intro x y first second less
      rw [place_cons_of_ne (apart x first), place_cons_of_ne (apart y second)]
      exact Nat.succ_lt_succ less
    cases leads : leadsOn seen here a with
    | false =>
      rw [onward_cons_of_not_leadsOn leads]
      refine later ?_
      rintro _ reached ⟨starts, rfl⟩
      simp [leadsOn, starts, (mem_onward.mp reached).1] at leads
    | true =>
      rw [onward_cons_of_leadsOn leads]
      have apart : ∀ x ∈ onward ⟨as⟩ (a.target :: seen) here,
          ¬ (a.source = here ∧ a.target = x) := by
        rintro _ reached ⟨_, rfl⟩
        exact (mem_onward.mp reached).1 (List.mem_cons_self ..)
      refine .cons ?_ (later apart)
      intro x reached
      have starts : a.source = here := by simpa using (Bool.and_eq_true_iff.mp leads).1
      have first : place ⟨a :: as⟩ here a.target = 0 := by
        simp [place, List.findIdx_cons, Arrow.sameEdge, starts]
      rw [first, place_cons_of_ne (apart x reached)]
      exact Nat.succ_pos _

/-! The search. -/

/-- The trail goes along arrows. No trip of as many arrows to the same object comes before it. -/
structure Best (g : Graph) (origin : String) (t : Trail) : Prop where
  walk : g.Walk origin t.here t.objects
  least : ∀ others, g.TripAt origin others t.here → others.length = t.past.length →
    NoLater (g.places t.objects) others

/-- What else holds of the search at each turn. The trails of the next level go before those of the
present one: they go on from trails that came before these. -/
structure Ranked (g : Graph) (origin : String) (n : Nat) (seen : List String)
    (present beyond : List Trail) : Prop extends Level g origin n seen present beyond where
  best : ∀ t ∈ present ++ beyond, g.Best origin t
  sooner : (beyond ++ present).Pairwise fun t u => Sooner (g.places t.objects) (g.places u.objects)

variable {n : Nat} {now later : List Trail} {t : Trail}

theorem ranked_start : g.Ranked origin 0 [origin] [⟨origin, []⟩] [] := by
  refine ⟨level_start, List.forall_mem_singleton.mpr ⟨⟨rfl, rfl, .singleton origin⟩, ?_⟩,
    List.pairwise_singleton ..⟩
  intro others _ none_left
  rw [List.length_eq_zero_iff.mp none_left]
  exact .inl rfl

theorem Ranked.next (ranked : g.Ranked origin n seen [] later) :
    g.Ranked origin (n + 1) seen later [] := by
  refine ⟨ranked.toLevel.next, ?_, ?_⟩
  · simpa using ranked.best
  · simpa using ranked.sooner

theorem Ranked.first {trails : List Trail} (ranked : g.Ranked origin n seen now later)
    (waiting : now ++ later = t :: trails) :
    ∃ n now later, g.Ranked origin n seen (t :: now) later ∧ trails = now ++ later := by
  cases now with
  | nil =>
    obtain rfl : later = t :: trails := waiting
    exact ⟨n + 1, trails, [], ranked.next, by simp⟩
  | cons u now =>
    obtain ⟨rfl, rfl⟩ := List.cons.inj waiting
    exact ⟨n, now, later, ranked, rfl⟩

/-- What leads to an unseen object from within the present level waits on this level. -/
theorem Level.waits (level : g.Level origin n seen now later) (near : g.Within origin n x)
    (edge : g.Edge x y) (unseen : y ∉ seen) : ∃ t ∈ now, t.here = x := by
  rcases level.followed x (level.near x near) with ⟨t, waits, rfl⟩ | closed
  · rcases List.mem_append.mp waits with present | beyond
    · exact ⟨t, present, rfl⟩
    · exact absurd near (level.later t beyond).2
  · exact absurd (closed y edge) unseen

theorem length_places_objects (t : Trail) : (g.places t.objects).length = t.past.length := by
  simp [length_places, Trail.objects]

theorem Best.places_step (best : g.Best origin t) (next : String) :
    g.places (t.step next).objects = g.places t.objects ++ [g.place t.here next] := by
  rw [objects_step, places_concat best.walk.ends]

theorem Ranked.step (ranked : g.Ranked origin n seen (t :: now) later)
    (reached : y ∈ g.onward seen t.here) : g.Best origin (t.step y) := by
  obtain ⟨unseen, edge⟩ := mem_onward_iff_edge.mp reached
  have best := ranked.best t (List.mem_cons_self ..)
  have length : t.past.length = n := ranked.now t (List.mem_cons_self ..)
  refine ⟨?_, ?_⟩
  · rw [objects_step]
    exact best.walk.step edge
  · intro others trip long
    rcases List.eq_nil_or_concat' others with rfl | ⟨ps, i, rfl⟩
    · cases long
    have long : ps.length = n := by simpa [Trail.step, length] using long
    obtain ⟨a, placed, ends, before⟩ := trip.of_concat
    have target : a.target = y := ends
    have last : g.Edge a.source y :=
      edge_iff.mpr ⟨a, List.mem_of_getElem? placed, rfl, target⟩
    obtain ⟨u, waits, starts⟩ := ranked.waits (long ▸ before.within) last unseen
    have least := (ranked.best u (List.mem_append_left _ waits)).least ps (starts ▸ before)
      (long.trans (ranked.now u waits).symm)
    rw [best.places_step]
    have same : (g.places t.objects).length = ps.length := by
      rw [length_places_objects, length, long]
    rcases List.mem_cons.mp waits with rfl | behind
    -- The other trip comes through the same object, or through one whose trail waits behind.
    · refine least.concat same ?_
      rw [starts, ← target]
      exact place_le placed
    · have sooner := List.rel_of_pairwise_cons (List.pairwise_append.mp ranked.sooner).2.1 behind
      exact .inr ((sooner.trans_noLater least).append same _ _)

theorem Ranked.turn (ranked : g.Ranked origin n seen (t :: now) later) :
    g.Ranked origin n (seen ++ g.onward seen t.here) now
      (later ++ (g.onward seen t.here).map t.step) := by
  have best := ranked.best t (List.mem_cons_self ..)
  obtain ⟨before, following, across⟩ := List.pairwise_append.mp ranked.sooner
  obtain ⟨behind, after⟩ := List.pairwise_cons.mp following
  refine ⟨ranked.toLevel.turn, ?_, ?_⟩
  · intro u member
    rw [← List.append_assoc, List.mem_append] at member
    rcases member with old | new
    · exact ranked.best u (List.mem_cons_of_mem _ old)
    · obtain ⟨y, reached, rfl⟩ := List.mem_map.mp new
      exact ranked.step reached
  · -- The trails that go on from the first one take its place in the order.
    rw [List.append_assoc, List.pairwise_append, List.pairwise_append, List.pairwise_map]
    refine ⟨before, ⟨?_, after, ?_⟩, ?_⟩
    · refine (onward_pairwise g.arrows seen t.here).imp ?_
      intro x y less
      rw [best.places_step, best.places_step]
      exact .append_left _ (.rel less) _
    · intro _ new v waits
      obtain ⟨y, _, rfl⟩ := List.mem_map.mp new
      have same : (g.places t.objects).length = (g.places v.objects).length := by
        rw [length_places_objects, length_places_objects, ranked.now t (List.mem_cons_self ..),
          ranked.now v (List.mem_cons_of_mem _ waits)]
      have sooner := (behind v waits).append same [g.place t.here y] []
      rwa [List.append_nil, ← best.places_step] at sooner
    · intro u early v member
      rcases List.mem_append.mp member with new | waits
      · obtain ⟨y, _, rfl⟩ := List.mem_map.mp new
        rw [best.places_step]
        exact .append_right _ _ (across u early t (List.mem_cons_self ..))
      · exact across u early v (List.mem_cons_of_mem _ waits)

/-- The trail that is found is the best of its length. -/
theorem search_best {trails : List Trail} {trail : Trail}
    (ranked : g.Ranked origin n seen now later) (waiting : now ++ later = trails)
    (found : g.search destination seen trails = some trail) :
    g.Best origin trail ∧ trail.here = destination := by
  fun_induction search g destination seen trails generalizing n now later with
  | case1 => cases found
  | case2 seen t trails fresh =>
    rename_i reached
    obtain ⟨n, now, later, ranked, -⟩ := ranked.first waiting
    obtain rfl := Option.some.inj found
    exact ⟨ranked.step (by simpa [fresh] using reached), rfl⟩
  | case3 seen t trails fresh =>
    rename_i ih
    obtain ⟨n, now, later, ranked, rfl⟩ := ranked.first waiting
    exact ih ranked.turn (List.append_assoc ..).symm found

/-- Along the route, the first arrows between neighbours are a trip. Of all trips of as many arrows
from the origin to the destination, none has the earlier arrow where it first goes another way. -/
theorem route_earliest (found : g.route origin destination = some objects) :
    (∃ arrows, (g.places objects).map (g.arrows[·]?) = arrows.map some ∧
      g.Trip origin arrows destination ∧ objectsAlong origin arrows = objects) ∧
    ∀ others, g.TripAt origin others destination → others.length + 1 = objects.length →
      NoLater (g.places objects) others := by
  refine ⟨(walk_of_route found).trip_places, ?_⟩
  intro others trip long
  rw [route] at found
  split at found
  · obtain rfl := Option.some.inj found
    exact .inl (List.length_eq_zero_iff.mp (Nat.succ.inj long)).symm
  · obtain ⟨trail, hit, rfl⟩ := Option.map_eq_some_iff.mp found
    obtain ⟨best, rfl⟩ := search_best ranked_start rfl hit
    exact best.least others trip (by simpa [Trail.objects] using long)

/-- Three ways of two arrows lead from a to d. The one through c starts with the earlier arrow,
though the one through b ends with an arrow that is earlier still. -/
theorem route_earliest_fork :
    let g : Graph := ⟨[⟨"b", "d", none⟩, ⟨"a", "c", some "f"⟩, ⟨"a", "b", none⟩, ⟨"c", "d", none⟩,
      ⟨"a", "c", none⟩]⟩
    g.route "a" "d" = some ["a", "c", "d"] ∧ g.places ["a", "c", "d"] = [1, 3] ∧
    g.TripAt "a" [2, 0] "d" ∧ g.TripAt "a" [4, 3] "d" ∧
    ∀ others, g.TripAt "a" others "d" → others.length + 1 = 3 → NoLater [1, 3] others := by
  intro g
  have found : g.route "a" "d" = some ["a", "c", "d"] := by decide +kernel
  have placed : g.places ["a", "c", "d"] = [1, 3] := by decide +kernel
  have throughB : g.Trip "a" [⟨"a", "b", none⟩, ⟨"b", "d", none⟩] "d" :=
    .go (a := ⟨"a", "b", none⟩) (by decide) (.go (a := ⟨"b", "d", none⟩) (by decide) (.stay "d"))
  have again : g.Trip "a" [⟨"a", "c", none⟩, ⟨"c", "d", none⟩] "d" :=
    .go (a := ⟨"a", "c", none⟩) (by decide) (.go (a := ⟨"c", "d", none⟩) (by decide) (.stay "d"))
  refine ⟨found, placed, ⟨_, rfl, throughB⟩, ⟨_, rfl, again⟩, ?_⟩
  rw [← placed]
  exact (route_earliest found).2

end ArrowGraph.Graph
