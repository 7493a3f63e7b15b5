import ArrowGraph.Proofs.Graph.Growth
import ArrowGraph.Proofs.Graph.Reach
import Mathlib.Data.List.Chain

/-! Shortest routes. The search goes out by levels: before it follows the first trail of more than n
arrows, it has seen all that n arrows lead to. So no walk along the arrows is shorter than the route
between the same objects. -/
namespace ArrowGraph.Graph

variable {g h : Graph} {origin destination : String}

/-- Objects from the origin to the destination, with an arrow from each to the next. -/
structure Walk (g : Graph) (origin destination : String) (objects : List String) : Prop where
  starts : objects.head? = some origin
  ends : objects.getLast? = some destination
  linked : objects.IsChain g.Edge

theorem Grows.walk {objects : List String} (grown : g.Grows h)
    (walk : g.Walk origin destination objects) : h.Walk origin destination objects :=
  ⟨walk.starts, walk.ends, walk.linked.imp fun _ _ edge => grown.edge edge⟩

theorem Walk.step {objects : List String} {next : String} (walk : g.Walk origin destination objects)
    (edge : g.Edge destination next) : g.Walk origin next (objects ++ [next]) := by
  obtain ⟨starts, ends, linked⟩ := walk
  refine ⟨by simp [starts], List.getLast?_concat, ?_⟩
  rw [List.isChain_append]
  refine ⟨linked, .singleton next, ?_⟩
  intro x last y first
  obtain rfl : destination = x := Option.some.inj (ends.symm.trans last)
  obtain rfl : next = y := Option.some.inj first
  exact edge

theorem mem_ends_of_isChain {x : String} {objects : List String}
    (linked : (x :: objects).IsChain g.Edge) : ∀ object ∈ objects, object ∈ g.ends := by
  induction objects generalizing x with
  | nil => nofun
  | cons y objects ih =>
    obtain ⟨edge, others⟩ := List.isChain_cons_cons.mp linked
    exact List.forall_mem_cons.mpr ⟨(mem_ends_of_edge edge).2, ih others⟩

theorem Walk.mem_ends {objects : List String} (walk : g.Walk origin destination objects) :
    ∀ object ∈ objects, object = origin ∨ object ∈ g.ends := by
  obtain ⟨starts, _, linked⟩ := walk
  cases objects with
  | nil => nofun
  | cons x objects =>
    obtain rfl : x = origin := Option.some.inj starts
    refine List.forall_mem_cons.mpr ⟨.inl rfl, fun object member => .inr ?_⟩
    exact mem_ends_of_isChain linked object member

theorem objects_step (t : Trail) (next : String) : (t.step next).objects = t.objects ++ [next] := by
  simp [Trail.objects, Trail.step]

theorem walk_of_route {objects : List String} (found : g.route origin destination = some objects) :
    g.Walk origin destination objects := by
  rw [route] at found
  split at found
  · rename_i same
    subst same
    obtain rfl := Option.some.inj found
    exact ⟨rfl, rfl, .singleton origin⟩
  · obtain ⟨trail, hit, rfl⟩ := Option.map_eq_some_iff.mp found
    have longer (t : Trail) (next : String) (walk : g.Walk origin t.here t.objects)
        (edge : g.Edge t.here next) : g.Walk origin (t.step next).here (t.step next).objects := by
      rw [objects_step]
      exact walk.step edge
    have start : ∀ t ∈ [Trail.mk origin []], g.Walk origin t.here t.objects :=
      List.forall_mem_singleton.mpr ⟨rfl, rfl, .singleton origin⟩
    obtain ⟨walk, reached⟩ := search_found longer start hit
    exact reached ▸ walk

inductive Within (g : Graph) (origin : String) : Nat → String → Prop where
  | start (n : Nat) : Within g origin n origin
  | step {n : Nat} {x y : String} (near : Within g origin n x) (edge : g.Edge x y) :
      Within g origin (n + 1) y

theorem Within.mono {m n : Nat} {x : String} (near : g.Within origin m x) (less : m ≤ n) :
    g.Within origin n x := by
  induction near generalizing n with
  | start => exact .start n
  | @step m x y _ edge ih =>
    obtain ⟨k, rfl⟩ : ∃ k, n = k + 1 := ⟨n - 1, by omega⟩
    exact .step (ih (by omega)) edge

theorem Within.walk {n : Nat} {x : String} {objects : List String} (near : g.Within origin n x)
    (walk : g.Walk x destination objects) :
    g.Within origin (n + (objects.length - 1)) destination := by
  obtain ⟨starts, ends, linked⟩ := walk
  induction objects generalizing n x with
  | nil => cases starts
  | cons y objects ih =>
    obtain rfl : y = x := Option.some.inj starts
    cases objects with
    | nil =>
      obtain rfl : y = destination := Option.some.inj ends
      exact near
    | cons z objects =>
      rw [List.isChain_cons_cons] at linked
      have rest := ih (.step near linked.1) rfl ends linked.2
      refine rest.mono ?_
      simp only [List.length_cons]
      omega

/-- What holds of the search at each turn. The trails `now` have n arrows and those `later` have one
more; all that n arrows lead to has been seen, and the later trails end beyond that. -/
structure Level (g : Graph) (origin : String) (n : Nat) (seen : List String)
    (now later : List Trail) : Prop where
  followed : g.Followed seen (now ++ later)
  near : ∀ x, g.Within origin n x → x ∈ seen
  now : ∀ t ∈ now, t.past.length = n
  later : ∀ t ∈ later, t.past.length = n + 1 ∧ ¬ g.Within origin n t.here

variable {n : Nat} {seen : List String} {now later : List Trail}

theorem level_start : g.Level origin 0 [origin] [⟨origin, []⟩] [] := by
  refine ⟨by simp [Followed], ?_, by simp, nofun⟩
  intro x near
  cases near
  exact List.mem_singleton_self origin

theorem Level.next (level : g.Level origin n seen [] later) :
    g.Level origin (n + 1) seen later [] := by
  obtain ⟨followed, near, _, beyond⟩ := level
  refine ⟨by simpa using followed, ?_, fun t member => (beyond t member).1, nofun⟩
  intro x within
  cases within with
  | start => exact near _ (.start n)
  | @step _ y _ before edge =>
    rcases followed y (near y before) with ⟨t, waits, rfl⟩ | closed
    · exact absurd before (beyond t waits).2
    · exact closed x edge

/-- The first trail can be taken to be one of the present level. -/
theorem Level.first {t : Trail} {trails : List Trail} (level : g.Level origin n seen now later)
    (waiting : now ++ later = t :: trails) :
    ∃ n now later, g.Level origin n seen (t :: now) later ∧ trails = now ++ later := by
  cases now with
  | nil =>
    obtain rfl : later = t :: trails := waiting
    exact ⟨n + 1, trails, [], level.next, by simp⟩
  | cons u now =>
    obtain ⟨rfl, rfl⟩ := List.cons.inj waiting
    exact ⟨n, now, later, level, rfl⟩

theorem Level.turn {t : Trail} (level : g.Level origin n seen (t :: now) later) :
    g.Level origin n (seen ++ g.onward seen t.here) now
      (later ++ (g.onward seen t.here).map t.step) := by
  obtain ⟨followed, near, present, beyond⟩ := level
  refine ⟨?_, ?_, fun u member => present u (List.mem_cons_of_mem _ member), ?_⟩
  · rw [← List.append_assoc]
    exact followed.turn
  · exact fun x within => List.mem_append_left _ (near x within)
  · intro u member
    rcases List.mem_append.mp member with old | new
    · exact beyond u old
    · obtain ⟨x, onward, rfl⟩ := List.mem_map.mp new
      have length : (t.step x).past.length = n + 1 :=
        congrArg (· + 1) (present t (List.mem_cons_self ..))
      exact ⟨length, fun within => (mem_onward_iff_edge.mp onward).1 (near x within)⟩

/-- No fewer arrows lead to the destination than the trail has that is found. -/
theorem search_shortest {trails : List Trail} {trail : Trail} {m : Nat}
    (level : g.Level origin n seen now later) (waiting : now ++ later = trails)
    (unseen : destination ∉ seen) (found : g.search destination seen trails = some trail)
    (near : g.Within origin m destination) : trail.past.length ≤ m := by
  fun_induction search g destination seen trails generalizing n now later with
  | case1 => cases found
  | case2 seen t trails =>
    obtain ⟨n, now, later, level, -⟩ := level.first waiting
    obtain rfl := Option.some.inj found
    have length : t.past.length = n := level.now t (List.mem_cons_self ..)
    have beyond : n < m := by
      by_contra less
      exact unseen (level.near destination (near.mono (by omega)))
    simp only [Trail.step, List.length_cons]
    omega
  | case3 seen t trails fresh unreached =>
    rename_i ih
    obtain ⟨n, now, later, level, rfl⟩ := level.first waiting
    have unseen' : destination ∉ seen ++ fresh := by
      rw [List.mem_append, not_or]
      exact ⟨unseen, by simpa using unreached⟩
    exact ih level.turn (List.append_assoc ..).symm unseen' found

theorem route_shortest {objects others : List String}
    (found : g.route origin destination = some objects)
    (walk : g.Walk origin destination others) : objects.length ≤ others.length := by
  have nonempty : 0 < others.length := by
    cases others with
    | nil => cases walk.starts
    | cons => simp
  rw [route] at found
  split at found
  · obtain rfl := Option.some.inj found
    exact nonempty
  · rename_i apart
    obtain ⟨trail, hit, rfl⟩ := Option.map_eq_some_iff.mp found
    have near := (Within.start (g := g) 0).walk walk
    have unseen : destination ∉ [origin] := by simpa using Ne.symm apart
    have shortest := search_shortest level_start rfl unseen hit near
    simp only [Trail.objects, List.length_reverse, List.length_cons]
    omega

end ArrowGraph.Graph
