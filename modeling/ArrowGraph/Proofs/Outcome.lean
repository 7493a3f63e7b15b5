import Mathlib.Data.List.Forall2

namespace ArrowGraph

section

variable {α β ε : Type} {outcome : Except ε α} {b : β} {e : ε}

theorem map_eq_ok_iff {f : α → β} : f <$> outcome = .ok b ↔ ∃ a, outcome = .ok a ∧ f a = b := by
  cases outcome <;> simp [Functor.map, Except.map]

theorem map_eq_error_iff {f : α → β} : f <$> outcome = .error e ↔ outcome = .error e := by
  cases outcome <;> simp [Functor.map, Except.map]

theorem bind_eq_ok_iff {f : α → Except ε β} :
    outcome >>= f = .ok b ↔ ∃ a, outcome = .ok a ∧ f a = .ok b := by
  cases outcome <;> simp [bind, Except.bind]

theorem bind_eq_error_iff {f : α → Except ε β} :
    outcome >>= f = .error e ↔ outcome = .error e ∨ ∃ a, outcome = .ok a ∧ f a = .error e := by
  cases outcome <;> simp [bind, Except.bind]

theorem mapM_ok_iff {f : α → Except ε β} {xs : List α} {ys : List β} :
    xs.mapM f = .ok ys ↔ List.Forall₂ (fun x y => f x = .ok y) xs ys := by
  induction xs generalizing ys with
  | nil =>
    rw [List.mapM_nil, List.forall₂_nil_left_iff]
    exact ⟨fun same => (Except.ok.inj same).symm, fun same => same ▸ rfl⟩
  | cons x xs ih =>
    rw [List.mapM_cons, List.forall₂_cons_left_iff, bind_eq_ok_iff]
    constructor
    · rintro ⟨y, first, accepted⟩
      obtain ⟨zs, others, same⟩ := bind_eq_ok_iff.mp accepted
      exact ⟨y, zs, first, ih.mp others, (Except.ok.inj same).symm⟩
    · rintro ⟨y, zs, first, others, rfl⟩
      exact ⟨y, first, bind_eq_ok_iff.mpr ⟨zs, ih.mpr others, rfl⟩⟩

theorem mapM_error_iff {f : α → Except ε β} {xs : List α} :
    xs.mapM f = .error e ↔ ∃ before x after, xs = before ++ x :: after ∧
      (∀ y ∈ before, ∃ z, f y = .ok z) ∧ f x = .error e := by
  induction xs with
  | nil => simp [pure, Except.pure]
  | cons x xs ih =>
    have others : (f x >>= fun y => xs.mapM f >>= fun ys => pure (y :: ys)) = .error e ↔
        f x = .error e ∨ (∃ y, f x = .ok y) ∧ xs.mapM f = .error e := by
      simp [bind_eq_error_iff, pure, Except.pure]
    rw [List.mapM_cons, others, ih]
    constructor
    · rintro (here | ⟨first, before, y, after, rfl, accepted, later⟩)
      · exact ⟨[], x, xs, rfl, nofun, here⟩
      · exact ⟨x :: before, y, after, rfl, List.forall_mem_cons.mpr ⟨first, accepted⟩, later⟩
    · rintro ⟨before, y, after, split, accepted, failed⟩
      rcases List.cons_eq_append_iff.mp split with ⟨rfl, whole⟩ | ⟨before, rfl, rfl⟩
      · obtain ⟨rfl, rfl⟩ := List.cons.inj whole
        exact .inl failed
      · obtain ⟨first, accepted⟩ := List.forall_mem_cons.mp accepted
        exact .inr ⟨first, before, y, after, rfl, accepted, failed⟩

end

section

variable {α β γ : Type} {R : α → β → Prop} {S : β → γ → Prop}

theorem exists_of_forall₂ {xs : List α} {ys : List β} {y : β} (related : List.Forall₂ R xs ys)
    (member : y ∈ ys) : ∃ x ∈ xs, R x y := by
  induction related with
  | nil => cases member
  | @cons a b as bs here _ ih =>
    rcases List.mem_cons.mp member with rfl | later
    · exact ⟨a, List.mem_cons_self .., here⟩
    · obtain ⟨x, inside, there⟩ := ih later
      exact ⟨x, List.mem_cons_of_mem _ inside, there⟩

theorem forall₂_of_map_eq {f : α → γ} {xs ys : List α} {zs : List β}
    (carries : ∀ x y z, f x = f y → R x z → R y z) (same : xs.map f = ys.map f)
    (related : List.Forall₂ R xs zs) : List.Forall₂ R ys zs := by
  induction related generalizing ys with
  | nil =>
    obtain rfl := List.map_eq_nil_iff.mp same.symm
    exact .nil
  | @cons x z _ _ first _ ih =>
    obtain ⟨y, ys, rfl, here, others⟩ := List.map_eq_cons_iff.mp same.symm
    exact .cons (carries x y z here.symm first) (ih others.symm)

theorem forall₂_between {xs : List α} {zs : List γ}
    (related : List.Forall₂ (fun x z => ∃ y, R x y ∧ S y z) xs zs) :
    ∃ ys, List.Forall₂ R xs ys ∧ List.Forall₂ S ys zs := by
  induction related with
  | nil => exact ⟨[], .nil, .nil⟩
  | cons first _ ih =>
    obtain ⟨y, before, after⟩ := first
    obtain ⟨ys, befores, afters⟩ := ih
    exact ⟨y :: ys, .cons before befores, .cons after afters⟩

end

end ArrowGraph
