import Mathlib.Data.List.Induction
import Mathlib.Data.List.Nodup

namespace ArrowGraph

variable {α : Type} [BEq α] [LawfulBEq α] {seen xs ys : List α} {x : α}

/-- The first list has the members of the second one, each once, in the order in which they first
appear there. -/
structure FirstSeen (seen xs : List α) : Prop where
  nodup : seen.Nodup
  mem : ∀ x, x ∈ seen ↔ x ∈ xs
  order : seen.Pairwise fun x y => xs.idxOf x < xs.idxOf y

theorem FirstSeen.order_append (kept : FirstSeen seen xs) (ys : List α) :
    seen.Pairwise fun x y => (xs ++ ys).idxOf x < (xs ++ ys).idxOf y := by
  refine kept.order.imp_of_mem fun {x y} hx hy before => ?_
  rwa [List.idxOf_append_of_mem ((kept.mem x).mp hx), List.idxOf_append_of_mem ((kept.mem y).mp hy)]

theorem FirstSeen.again (kept : FirstSeen seen xs) (old : x ∈ xs) : FirstSeen seen (xs ++ [x]) := by
  refine ⟨kept.nodup, fun y => ?_, kept.order_append [x]⟩
  rw [kept.mem, List.mem_append, List.mem_singleton, or_iff_left_of_imp]
  rintro rfl
  exact old

theorem FirstSeen.fresh (kept : FirstSeen seen xs) (new : x ∉ xs) :
    FirstSeen (seen ++ [x]) (xs ++ [x]) := by
  have unseen : x ∉ seen := fun member => new ((kept.mem x).mp member)
  refine ⟨?_, fun y => ?_, ?_⟩
  · rw [← List.concat_eq_append]
    exact kept.nodup.concat unseen
  · rw [List.mem_append, List.mem_append, kept.mem]
  · rw [List.pairwise_append]
    refine ⟨kept.order_append [x], List.pairwise_singleton .., fun y member z last => ?_⟩
    obtain rfl := List.mem_singleton.mp last
    have inside : y ∈ xs := (kept.mem y).mp member
    rw [List.idxOf_append_of_mem inside, List.idxOf_append_of_notMem new]
    exact Nat.lt_add_right _ (List.idxOf_lt_length_of_mem inside)

theorem eraseDups_concat_of_mem (old : x ∈ xs) : (xs ++ [x]).eraseDups = xs.eraseDups := by
  simp [List.eraseDups_append, List.removeAll, old]

theorem eraseDups_concat_of_not_mem (new : x ∉ xs) :
    (xs ++ [x]).eraseDups = xs.eraseDups ++ [x] := by
  simp [List.eraseDups_append, List.removeAll, new, List.eraseDups_cons]

theorem firstSeen_eraseDups (xs : List α) : FirstSeen xs.eraseDups xs := by
  induction xs using List.reverseRecOn with
  | nil => exact ⟨.nil, fun _ => Iff.rfl, .nil⟩
  | append_singleton xs x ih =>
    by_cases old : x ∈ xs
    · rw [eraseDups_concat_of_mem old]
      exact ih.again old
    · rw [eraseDups_concat_of_not_mem old]
      exact ih.fresh old

theorem eraseDups_prefix (goesOn : xs <+: ys) : xs.eraseDups <+: ys.eraseDups := by
  obtain ⟨later, rfl⟩ := goesOn
  rw [List.eraseDups_append]
  exact List.prefix_append ..

theorem eraseDups_append_self (xs : List α) : (xs ++ xs).eraseDups = xs.eraseDups := by
  have nothing : xs.removeAll xs = [] := by simp [List.removeAll]
  rw [List.eraseDups_append, nothing, List.eraseDups_nil, List.append_nil]

end ArrowGraph
