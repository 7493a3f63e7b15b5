import ArrowGraph.Graph.Basic

/-!
Routes. The search goes out from the origin in all directions at once and reaches every object by a
shortest trail; among equally short trails the one along earlier arrows comes first. It ends because
each trail that is followed is taken from those waiting, and each that is added takes an arrow from
those that lead to unseen objects.
-/
namespace ArrowGraph.Graph

/-- A way from the origin: the object it has reached, and those before it, the last one first. -/
structure Trail where
  here : String
  past : List String
  deriving DecidableEq, Repr

def Trail.step (trail : Trail) (next : String) : Trail :=
  ⟨next, trail.here :: trail.past⟩

def Trail.objects (trail : Trail) : List String :=
  (trail.here :: trail.past).reverse

def leadsOn (seen : List String) (here : String) (a : Arrow) : Bool :=
  a.source = here && !seen.contains a.target

/-- The objects that one arrow reaches from `here` and that have not been seen, in the order of the
arrows. -/
def onward (g : Graph) (seen : List String) (here : String) : List String :=
  ((g.arrows.filter (leadsOn seen here)).map Arrow.target).eraseDups

def unseen (g : Graph) (seen : List String) : Nat :=
  g.arrows.countP fun a => !seen.contains a.target

theorem mem_onward {g : Graph} {seen : List String} {here object : String} :
    object ∈ g.onward seen here ↔
      object ∉ seen ∧ ∃ a ∈ g.arrows, a.source = here ∧ a.target = object := by
  simp only [onward, List.mem_eraseDups, List.mem_map, List.mem_filter]
  constructor
  · rintro ⟨a, ⟨ha, h⟩, rfl⟩
    simp [leadsOn] at h
    exact ⟨h.2, a, ha, h.1, rfl⟩
  · rintro ⟨fresh, a, ha, rfl, rfl⟩
    exact ⟨a, ⟨ha, by simpa [leadsOn] using fresh⟩, rfl⟩

theorem length_eraseDups_le (xs : List String) : xs.eraseDups.length ≤ xs.length := by
  induction h : xs.length using Nat.strongRecOn generalizing xs with
  | ind n ih =>
    cases xs with
    | nil => simp
    | cons x xs =>
      have shorter : (xs.filter fun y => !y == x).length ≤ xs.length := List.length_filter_le ..
      simp only [List.length_cons] at h
      have h := ih _ (by omega) (xs.filter fun y => !y == x) rfl
      simp only [List.eraseDups_cons, List.length_cons]
      omega

theorem countP_add_countP_le {p q r : Arrow → Bool} (as : List Arrow)
    (apart : ∀ a ∈ as, q a = true → p a = true ∧ r a = false)
    (within : ∀ a ∈ as, r a = true → p a = true) : as.countP q + as.countP r ≤ as.countP p := by
  induction as with
  | nil => simp
  | cons a as ih =>
    have h := ih (fun b hb => apart b (List.mem_cons_of_mem _ hb))
      (fun b hb => within b (List.mem_cons_of_mem _ hb))
    have ha := apart a (List.mem_cons_self ..)
    have hr := within a (List.mem_cons_self ..)
    simp only [List.countP_cons]
    cases hq : q a <;> cases hr' : r a <;> simp_all <;> omega

/-- Every object that is reached for the first time takes at least one arrow from those that lead to
unseen objects. -/
theorem onward_add_unseen_le (g : Graph) (seen : List String) (here : String) :
    (g.onward seen here).length + g.unseen (seen ++ g.onward seen here) ≤ g.unseen seen := by
  have distinct := length_eraseDups_le ((g.arrows.filter (leadsOn seen here)).map Arrow.target)
  rw [List.length_map, ← List.countP_eq_length_filter] at distinct
  have apart := countP_add_countP_le (p := fun a => !seen.contains a.target)
    (q := leadsOn seen here) (r := fun a => !(seen ++ g.onward seen here).contains a.target)
    g.arrows
    (by
      intro a ha leads
      have reached : a.target ∈ g.onward seen here := by
        simp [leadsOn] at leads
        exact mem_onward.mpr ⟨leads.2, a, ha, leads.1, rfl⟩
      simp_all [leadsOn])
    (by
      intro a _ fresh
      simp_all)
  simp only [unseen]
  rw [onward] at apart ⊢
  omega

/-- Follow the trails, the first one first, until one reaches the destination. -/
def search (g : Graph) (destination : String) (seen : List String) :
    List Trail → Option Trail
  | [] => none
  | trail :: trails =>
    let fresh := g.onward seen trail.here
    if fresh.contains destination then some (trail.step destination)
    else search g destination (seen ++ fresh) (trails ++ fresh.map trail.step)
termination_by trails => g.unseen seen + trails.length
decreasing_by
  have h := onward_add_unseen_le g seen trail.here
  simp only [List.length_append, List.length_map, List.length_cons]
  omega

def route (g : Graph) (origin destination : String) : Option (List String) :=
  if origin = destination then some [origin]
  else (g.search destination [origin] [⟨origin, []⟩]).map Trail.objects

end ArrowGraph.Graph
