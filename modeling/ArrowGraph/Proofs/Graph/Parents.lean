import ArrowGraph.Proofs.Graph.Shortest

/-! Routes by a table of parents. The search can note, for each object it finds, from where it was
found; the way back from the destination along these notes then ends at the origin, and read
forwards it is the route. So a route meets no object twice. -/
namespace ArrowGraph.Graph

/-- The objects that were found, each with the one from which it was found, the last one first. -/
abbrev Parents := List (String × String)

def Parents.found (parents : Parents) : List String :=
  parents.map Prod.fst

/-- Note what the arrows reach for the first time from `here`, and let it wait to be followed. At
the destination nothing waits any more. -/
def discover (destination here : String) (parents : Parents) (waiting : List String) :
    List Arrow → Parents × Option (List String)
  | [] => (parents, some waiting)
  | a :: as =>
    if leadsOn parents.found here a then
      let parents := (a.target, here) :: parents
      if a.target = destination then (parents, none)
      else discover destination here parents (waiting ++ [a.target]) as
    else discover destination here parents waiting as

/-- The loop from the destination back to the origin: it ends with these objects, and never meets an
object without a parent. -/
inductive WalksBack (parents : Parents) (origin : String) : String → List String → Prop where
  | stop : WalksBack parents origin origin [origin]
  | back {here before : String} {objects : List String} (away : here ≠ origin)
      (noted : parents.lookup here = some before)
      (rest : WalksBack parents origin before objects) :
      WalksBack parents origin here (objects ++ [here])

variable {g : Graph} {origin destination here x y : String} {parents parents' : Parents}
  {seen waiting objects others fresh : List String} {a : Arrow} {as : List Arrow}

theorem mem_found_cons : x ∈ Parents.found ((y, here) :: parents) ↔ x = y ∨ x ∈ parents.found := by
  simp [Parents.found]

theorem WalksBack.unique (walk : WalksBack parents origin x objects)
    (again : WalksBack parents origin x others) : objects = others := by
  induction walk generalizing others with
  | stop =>
    cases again with
    | stop => rfl
    | back away => exact absurd rfl away
  | @back x before objects away noted _ ih =>
    cases again with
    | stop => exact absurd rfl away
    | back _ noted' rest =>
      obtain rfl := Option.some.inj (noted.symm.trans noted')
      rw [ih rest]

theorem WalksBack.from_member (walk : WalksBack parents origin x objects) (member : y ∈ objects) :
    ∃ earlier, WalksBack parents origin y earlier ∧ earlier.length ≤ objects.length := by
  induction walk with
  | stop =>
    obtain rfl := List.mem_singleton.mp member
    exact ⟨_, .stop, Nat.le_refl _⟩
  | @back x before objects away noted rest ih =>
    rcases List.mem_append.mp member with inside | last
    · obtain ⟨earlier, back, shorter⟩ := ih inside
      exact ⟨earlier, back, by simp only [List.length_append]; omega⟩
    · obtain rfl := List.mem_singleton.mp last
      exact ⟨_, .back away noted rest, Nat.le_refl _⟩

/-- A walk back that ends meets no object twice: from there it would have gone round for ever. -/
theorem WalksBack.nodup (walk : WalksBack parents origin x objects) : objects.Nodup := by
  induction walk with
  | stop => exact List.nodup_singleton _
  | @back x before objects away noted rest ih =>
    have new : x ∉ objects := by
      intro member
      obtain ⟨earlier, again, shorter⟩ := rest.from_member member
      have same := again.unique (.back away noted rest)
      rw [same, List.length_append, List.length_singleton] at shorter
      omega
    rw [List.nodup_append]
    refine ⟨ih, List.nodup_singleton _, ?_⟩
    rintro y inside z last rfl
    obtain rfl := List.mem_singleton.mp last
    exact new inside

/-- The later table has the notes of the earlier one, and for the fresh objects that they were found
from `here`. -/
structure Noted (here : String) (fresh : List String) (parents parents' : Parents) : Prop where
  kept : ∀ x y, parents.lookup x = some y → parents'.lookup x = some y
  fresh : ∀ x ∈ fresh, parents'.lookup x = some here

theorem noted_nil : Noted here [] parents parents :=
  ⟨fun _ _ noted => noted, nofun⟩

theorem Noted.cons (new : x ∉ parents.found)
    (noted : Noted here fresh ((x, here) :: parents) parents') :
    Noted here (x :: fresh) parents parents' := by
  refine ⟨?_, List.forall_mem_cons.mpr ⟨noted.kept x here List.lookup_cons_self, noted.fresh⟩⟩
  intro y z old
  refine noted.kept y z ?_
  have apart : y ≠ x := by
    rintro rfl
    obtain ⟨entry, member, same⟩ := List.lookup_isSome_iff.mp (Option.isSome_of_eq_some old)
    rw [beq_iff_eq] at same
    exact new (List.mem_map.mpr ⟨entry, member, same.symm⟩)
  rw [List.lookup_cons, beq_eq_false_iff_ne.mpr apart]
  exact old

theorem WalksBack.noted (walk : WalksBack parents origin x objects)
    (noted : Noted here fresh parents parents') : WalksBack parents' origin x objects := by
  induction walk with
  | stop => exact .stop
  | back away old _ ih => exact .back away (noted.kept _ _ old) ih

theorem onward_cons_of_leadsOn (leads : leadsOn seen here a = true) :
    onward ⟨a :: as⟩ seen here = a.target :: onward ⟨as⟩ (a.target :: seen) here := by
  have others : leadsOn (a.target :: seen) here =
      fun b => leadsOn seen here b && !(b.target == a.target) := by
    funext b
    simp only [leadsOn, List.contains_cons, Bool.not_or, Bool.and_assoc,
      Bool.and_comm (!(b.target == a.target))]
  simp only [onward, List.filter_cons, leads, if_true, List.map_cons, List.eraseDups_cons]
  rw [List.filter_map, List.filter_filter, others]
  simp only [Function.comp_def, Bool.and_comm]

theorem onward_cons_of_not_leadsOn (leads : leadsOn seen here a = false) :
    onward ⟨a :: as⟩ seen here = onward ⟨as⟩ seen here := by
  simp [onward, leads]

theorem fresh_of_leadsOn (leads : leadsOn seen here a = true) : a.target ∉ seen := by
  simpa using (Bool.and_eq_true_iff.mp leads).2

theorem discover_onward (parents : Parents) (waiting : List String)
    (unreached : destination ∉ onward ⟨as⟩ parents.found here) :
    ∃ parents', discover destination here parents waiting as =
        (parents', some (waiting ++ onward ⟨as⟩ parents.found here)) ∧
      Noted here (onward ⟨as⟩ parents.found here) parents parents' ∧
      ∀ x, x ∈ parents'.found ↔ x ∈ parents.found ∨ x ∈ onward ⟨as⟩ parents.found here := by
  induction as generalizing parents waiting with
  | nil => exact ⟨parents, by simp [discover, onward], noted_nil, by simp [onward]⟩
  | cons a as ih =>
    rw [discover]
    cases leads : leadsOn parents.found here a with
    | false =>
      rw [onward_cons_of_not_leadsOn leads] at unreached ⊢
      exact ih parents waiting unreached
    | true =>
      rw [onward_cons_of_leadsOn leads] at unreached ⊢
      obtain ⟨apart, unreached⟩ := not_or.mp (List.mem_cons.not.mp unreached)
      obtain ⟨parents', done, noted, found⟩ :=
        ih ((a.target, here) :: parents) (waiting ++ [a.target]) unreached
      refine ⟨parents', ?_, noted.cons (fresh_of_leadsOn leads), ?_⟩
      · simpa [Ne.symm apart, Parents.found] using done
      · intro x
        rw [found, mem_found_cons, List.mem_cons]
        exact or_assoc.trans or_left_comm

theorem discover_arrived (parents : Parents) (waiting : List String)
    (reached : destination ∈ onward ⟨as⟩ parents.found here) :
    ∃ parents' fresh, discover destination here parents waiting as = (parents', none) ∧
      Noted here fresh parents parents' ∧ destination ∈ fresh := by
  induction as generalizing parents waiting with
  | nil => cases reached
  | cons a as ih =>
    rw [discover]
    cases leads : leadsOn parents.found here a with
    | false =>
      rw [onward_cons_of_not_leadsOn leads] at reached
      exact ih parents waiting reached
    | true =>
      rw [onward_cons_of_leadsOn leads] at reached
      have new := fresh_of_leadsOn leads
      by_cases same : a.target = destination
      · refine ⟨(a.target, here) :: parents, [a.target], by simp [same], noted_nil.cons new, ?_⟩
        exact List.mem_singleton.mpr same.symm
      · have later := (List.mem_cons.mp reached).resolve_left (Ne.symm same)
        obtain ⟨parents', fresh, done, noted, inside⟩ :=
          ih ((a.target, here) :: parents) (waiting ++ [a.target]) later
        refine ⟨parents', a.target :: fresh, ?_, noted.cons new, List.mem_cons_of_mem _ inside⟩
        simpa [same] using done

theorem unseen_congr (same : ∀ x, x ∈ seen ↔ x ∈ others) : g.unseen seen = g.unseen others := by
  simp only [unseen, List.contains_eq_mem, same]

/-- Every object that starts to wait takes an arrow from those that lead to what is not found. -/
theorem discover_shrinks {later : List String}
    (done : discover destination here parents waiting g.arrows = (parents', some later)) :
    g.unseen parents'.found + later.length ≤ g.unseen parents.found + waiting.length := by
  obtain ⟨arrows⟩ := g
  have unreached : destination ∉ onward ⟨arrows⟩ parents.found here := by
    intro reached
    obtain ⟨_, _, arrived, _⟩ := discover_arrived parents waiting reached
    rw [arrived] at done
    cases done
  obtain ⟨_, onwards, _, found⟩ := discover_onward parents waiting unreached
  obtain ⟨rfl, waits⟩ := Prod.mk.inj (done.symm.trans onwards)
  obtain rfl := Option.some.inj waits
  have shrinks := onward_add_unseen_le ⟨arrows⟩ parents.found here
  rw [unseen_congr fun x => (found x).trans List.mem_append.symm, List.length_append]
  omega

def explore (g : Graph) (destination : String) (parents : Parents) :
    List String → Option Parents
  | [] => none
  | here :: waiting =>
    match _done : discover destination here parents waiting g.arrows with
    | (parents, none) => some parents
    | (parents, some waiting) => explore g destination parents waiting
termination_by waiting => g.unseen parents.found + waiting.length
decreasing_by
  have shrinks := discover_shrinks _done
  simp only [List.length_cons]
  omega

theorem explore_of_arrived
    (done : discover destination here parents waiting g.arrows = (parents', none)) :
    g.explore destination parents (here :: waiting) = some parents' := by
  rw [explore]
  split
  · simp_all
  · simp_all

theorem explore_of_onward {later : List String}
    (done : discover destination here parents waiting g.arrows = (parents', some later)) :
    g.explore destination parents (here :: waiting) = g.explore destination parents' later := by
  rw [explore]
  split
  · simp_all
  · simp_all

/-- What the search by a table comes to: a route, or none. -/
inductive RouteBack (g : Graph) (origin destination : String) : Option (List String) → Prop where
  | here (same : origin = destination) : RouteBack g origin destination (some [origin])
  | missed (apart : origin ≠ destination)
      (missed : g.explore destination [(origin, origin)] [origin] = none) :
      RouteBack g origin destination none
  | found {parents : Parents} {objects : List String} (apart : origin ≠ destination)
      (found : g.explore destination [(origin, origin)] [origin] = some parents)
      (walk : WalksBack parents origin destination objects) :
      RouteBack g origin destination (some objects)

structure Traced (origin : String) (seen : List String) (trails : List Trail) (parents : Parents) :
    Prop where
  found : ∀ x, x ∈ parents.found ↔ x ∈ seen
  start : origin ∈ seen
  walks : ∀ t ∈ trails, WalksBack parents origin t.here t.objects

variable {trails : List Trail} {t : Trail}

theorem traced_start : Traced origin [origin] [⟨origin, []⟩] [(origin, origin)] :=
  ⟨fun _ => Iff.rfl, List.mem_singleton_self origin, List.forall_mem_singleton.mpr .stop⟩

theorem WalksBack.step (walk : WalksBack parents origin t.here t.objects)
    (noted : Noted t.here fresh parents parents') (inside : x ∈ fresh) (away : x ≠ origin) :
    WalksBack parents' origin x (t.step x).objects := by
  rw [objects_step]
  exact .back away (noted.fresh x inside) (walk.noted noted)

theorem onward_congr (same : ∀ x, x ∈ seen ↔ x ∈ others) :
    g.onward seen here = g.onward others here := by
  have leads : leadsOn seen here = leadsOn others here := by
    funext a
    simp only [leadsOn, List.contains_eq_mem, same]
  rw [onward, onward, leads]

theorem Traced.turn (traced : Traced origin seen (t :: trails) parents)
    (noted : Noted t.here (g.onward seen t.here) parents parents')
    (found : ∀ x, x ∈ parents'.found ↔ x ∈ parents.found ∨ x ∈ g.onward seen t.here) :
    Traced origin (seen ++ g.onward seen t.here)
      (trails ++ (g.onward seen t.here).map t.step) parents' := by
  obtain ⟨discovered, start, walks⟩ := traced
  obtain ⟨first, others⟩ := List.forall_mem_cons.mp walks
  refine ⟨?_, List.mem_append_left _ start, ?_⟩
  · intro x
    rw [found, discovered, List.mem_append]
  · intro u member
    rcases List.mem_append.mp member with old | new
    · exact (others u old).noted noted
    · obtain ⟨x, inside, rfl⟩ := List.mem_map.mp new
      have away : x ≠ origin := by
        rintro rfl
        exact (mem_onward.mp inside).1 start
      exact first.step noted inside away

/-- The two searches go hand in hand. -/
theorem explore_traced (traced : Traced origin seen trails parents) (unseen : destination ∉ seen) :
    (g.search destination seen trails = none ∧
      g.explore destination parents (trails.map Trail.here) = none) ∨
    ∃ trail parents', g.search destination seen trails = some trail ∧
      g.explore destination parents (trails.map Trail.here) = some parents' ∧
      WalksBack parents' origin destination trail.objects := by
  fun_induction search g destination seen trails generalizing parents with
  | case1 => exact .inl ⟨rfl, by rw [List.map_nil, explore]⟩
  | case2 seen t trails fresh =>
    rename_i reached
    right
    have arrived : destination ∈ onward ⟨g.arrows⟩ parents.found t.here := by
      rw [onward_congr traced.found]
      simpa using reached
    obtain ⟨parents', fresh, done, noted, inside⟩ := discover_arrived parents _ arrived
    refine ⟨t.step destination, parents', rfl, explore_of_arrived done, ?_⟩
    have away : destination ≠ origin := fun same => unseen (same ▸ traced.start)
    exact (traced.walks t (List.mem_cons_self ..)).step noted inside away
  | case3 seen t trails fresh =>
    rename_i unreached ih
    have short : destination ∉ onward ⟨g.arrows⟩ parents.found t.here := by
      rw [onward_congr traced.found]
      simpa using unreached
    obtain ⟨parents', done, noted, found⟩ := discover_onward parents _ short
    rw [onward_congr traced.found] at done noted found
    have later := ih (traced.turn noted found) (by
      rw [List.mem_append, not_or]
      exact ⟨unseen, by simpa using unreached⟩)
    have waits : (fresh.map t.step).map Trail.here = fresh := by
      simp [Function.comp_def, Trail.step]
    rw [List.map_append, waits] at later
    rw [List.map_cons, explore_of_onward done]
    exact later

theorem RouteBack.unique {result again : Option (List String)}
    (back : g.RouteBack origin destination result)
    (back' : g.RouteBack origin destination again) : result = again := by
  cases back with
  | here same =>
    cases back' with
    | here => rfl
    | missed apart => exact absurd same apart
    | found apart => exact absurd same apart
  | missed apart missed =>
    cases back' with
    | here same => exact absurd same apart
    | missed => rfl
    | found _ found => cases missed.symm.trans found
  | found apart found walk =>
    cases back' with
    | here same => exact absurd same apart
    | missed _ missed => cases found.symm.trans missed
    | found _ found' walk' =>
      obtain rfl := Option.some.inj (found.symm.trans found')
      rw [walk.unique walk']

theorem routeBack (g : Graph) (origin destination : String) :
    g.RouteBack origin destination (g.route origin destination) := by
  by_cases same : origin = destination
  · rw [route, if_pos same]
    exact .here same
  · rw [route, if_neg same]
    have unseen : destination ∉ [origin] := by simpa using Ne.symm same
    rcases explore_traced traced_start unseen with
      ⟨lost, missed⟩ | ⟨trail, parents, hit, found, walk⟩
    · rw [lost]
      exact .missed same missed
    · rw [hit]
      exact .found same found walk

/-- The search by a table has one outcome, which is the route. So it ends, and on the way back no
object is without a parent. -/
theorem routeBack_iff {result : Option (List String)} :
    g.RouteBack origin destination result ↔ g.route origin destination = result :=
  ⟨(routeBack g origin destination).unique, fun same => same ▸ routeBack g origin destination⟩

theorem nodup_of_route (found : g.route origin destination = some objects) : objects.Nodup := by
  cases found ▸ routeBack g origin destination with
  | here => exact List.nodup_singleton _
  | found _ _ walk => exact walk.nodup

end ArrowGraph.Graph
