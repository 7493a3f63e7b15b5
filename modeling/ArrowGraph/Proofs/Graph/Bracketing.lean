import ArrowGraph.Command.Apply
import ArrowGraph.Proofs.Outcome
import Mathlib.Data.List.Chain

namespace ArrowGraph

namespace Arrow

def Meets (outer inner : Arrow) : Prop :=
  inner.target = outer.source

theorem compose_eq_ok_iff {outer inner c : Arrow} :
    outer.compose inner = .ok c ↔ outer.Meets inner ∧ c = ⟨inner.source, outer.target, none⟩ := by
  by_cases meet : inner.target = outer.source <;> simp [compose, Meets, meet, eq_comm]

theorem compose_eq_error_iff {outer inner : Arrow} {clash : Mismatch} :
    outer.compose inner = .error clash ↔ ¬ outer.Meets inner ∧ clash = ⟨outer, inner⟩ := by
  by_cases meet : inner.target = outer.source <;> simp [compose, Meets, meet, eq_comm]

def Gap (row : List Arrow) : Prop :=
  ∃ before outer inner after, row = before ++ outer :: inner :: after ∧
    inner.target ≠ outer.source

theorem not_gap_iff {row : List Arrow} : ¬ Gap row ↔ row.IsChain Meets := by
  rw [List.isChain_iff_forall_rel_of_append_cons_cons]
  constructor
  · intro whole outer inner before after split
    by_contra apart
    exact whole ⟨before, outer, inner, after, split, apart⟩
  · rintro meet ⟨before, outer, inner, after, split, apart⟩
    exact apart (meet split)

end Arrow

open Arrow (Gap Meets)

/-- A way to compose the arrows of a row, two at a time. -/
inductive Bracketing where
  | arrow (a : Arrow)
  | pair (outer inner : Bracketing)

namespace Bracketing

def row : Bracketing → List Arrow
  | arrow a => [a]
  | pair outer inner => outer.row ++ inner.row

def composite : Bracketing → Except Mismatch Arrow
  | arrow a => .ok a
  | pair outer inner => do
    let a ← outer.composite
    let b ← inner.composite
    a.compose b

/-- Compose from the left: the first two arrows, then what they make and the third, and so on. -/
def fromLeft (a : Arrow) (others : List Arrow) : Bracketing :=
  others.foldl (fun outer inner => .pair outer (.arrow inner)) (.arrow a)

def outermost : Bracketing → Arrow
  | arrow a => a
  | pair outer _ => outer.outermost

def innermost : Bracketing → Arrow
  | arrow a => a
  | pair _ inner => inner.innermost

theorem head?_row (b : Bracketing) : b.row.head? = some b.outermost := by
  induction b with
  | arrow a => rfl
  | pair outer inner first _ => rw [row, List.head?_append, first]; rfl

theorem getLast?_row (b : Bracketing) : b.row.getLast? = some b.innermost := by
  induction b with
  | arrow a => rfl
  | pair outer inner _ last => rw [row, List.getLast?_append, last]; rfl

theorem row_pair (outer inner : Bracketing) : ∃ before after,
    outer.row = before ++ [outer.innermost] ∧ inner.row = inner.outermost :: after ∧
      (pair outer inner).row = before ++ outer.innermost :: inner.outermost :: after := by
  obtain ⟨before, left⟩ := List.getLast?_eq_some_iff.mp outer.getLast?_row
  obtain ⟨after, right⟩ := List.head?_eq_some_iff.mp inner.head?_row
  exact ⟨before, after, left, right, by rw [row, left, right, List.append_assoc]; rfl⟩

theorem meets_of_composite {b : Bracketing} {c : Arrow} (composed : b.composite = .ok c) :
    b.row.IsChain Meets ∧ c.source = b.innermost.source ∧ c.target = b.outermost.target := by
  induction b generalizing c with
  | arrow a =>
    cases composed
    exact ⟨.singleton a, rfl, rfl⟩
  | pair outer inner ihOuter ihInner =>
    obtain ⟨a, first, rest⟩ := bind_eq_ok_iff.mp composed
    obtain ⟨d, second, whole⟩ := bind_eq_ok_iff.mp rest
    obtain ⟨meet, rfl⟩ := Arrow.compose_eq_ok_iff.mp whole
    obtain ⟨chainOuter, sourceOuter, targetOuter⟩ := ihOuter first
    obtain ⟨chainInner, sourceInner, targetInner⟩ := ihInner second
    obtain ⟨before, after, left, right, joined⟩ := row_pair outer inner
    have touch : outer.innermost.Meets inner.outermost := by
      rwa [Meets, ← targetInner, ← sourceOuter]
    rw [left] at chainOuter
    rw [right] at chainInner
    refine ⟨?_, sourceInner, targetOuter⟩
    rw [joined, List.isChain_append_cons_cons]
    exact ⟨chainOuter, touch, chainInner⟩

theorem gap_of_composite {b : Bracketing} {clash : Mismatch}
    (broken : b.composite = .error clash) :
    ∃ before outer inner after, b.row = before ++ outer :: inner :: after ∧
      inner.target ≠ outer.source ∧ clash.outer.source = outer.source ∧
      clash.inner.target = inner.target := by
  induction b with
  | arrow a => cases broken
  | pair outer inner ihOuter ihInner =>
    rcases bind_eq_error_iff.mp broken with first | ⟨a, first, rest⟩
    · obtain ⟨before, x, y, after, split, apart⟩ := ihOuter first
      exact ⟨before, x, y, after ++ inner.row, by simp [row, split], apart⟩
    · rcases bind_eq_error_iff.mp rest with second | ⟨d, second, whole⟩
      · obtain ⟨before, x, y, after, split, apart⟩ := ihInner second
        exact ⟨outer.row ++ before, x, y, after, by simp [row, split], apart⟩
      · obtain ⟨apart, rfl⟩ := Arrow.compose_eq_error_iff.mp whole
        obtain ⟨-, source, -⟩ := meets_of_composite first
        obtain ⟨-, -, target⟩ := meets_of_composite second
        obtain ⟨before, after, -, -, joined⟩ := row_pair outer inner
        refine ⟨before, _, _, after, joined, ?_, source, target⟩
        rwa [← source, ← target]

theorem broken_iff_gap (b : Bracketing) : (∃ clash, b.composite = .error clash) ↔ Gap b.row := by
  constructor
  · rintro ⟨clash, broken⟩
    obtain ⟨before, outer, inner, after, split, apart, -⟩ := gap_of_composite broken
    exact ⟨before, outer, inner, after, split, apart⟩
  · intro gap
    cases outcome : b.composite with
    | error clash => exact ⟨clash, rfl⟩
    | ok c => exact absurd gap (Arrow.not_gap_iff.mpr (meets_of_composite outcome).1)

theorem composite_of_several {b : Bracketing} (several : 2 ≤ b.row.length) (whole : ¬ Gap b.row) :
    b.composite = .ok ⟨b.innermost.source, b.outermost.target, none⟩ := by
  cases outcome : b.composite with
  | error clash => exact absurd ((broken_iff_gap b).mp ⟨clash, outcome⟩) whole
  | ok c =>
    obtain ⟨-, source, target⟩ := meets_of_composite outcome
    cases b with
    | arrow a => simp [row] at several
    | pair outer inner =>
      obtain ⟨a, -, rest⟩ := bind_eq_ok_iff.mp outcome
      obtain ⟨d, -, last⟩ := bind_eq_ok_iff.mp rest
      obtain ⟨-, rfl⟩ := Arrow.compose_eq_ok_iff.mp last
      dsimp only at source target
      rw [source, target]

theorem composite_row {b : Bracketing} {first last : Arrow} {between : List Arrow}
    (shape : b.row = first :: between ++ [last]) (whole : ¬ Gap b.row) :
    b.composite = .ok ⟨last.source, first.target, none⟩ := by
  have starts := b.head?_row
  have stops := b.getLast?_row
  rw [shape] at starts stops
  rw [List.getLast?_concat] at stops
  obtain rfl := Option.some.inj starts
  obtain rfl := Option.some.inj stops
  exact composite_of_several (by simp [shape]) whole

theorem exists_arrow_of_short {b : Bracketing} (short : b.row.length < 2) : ∃ a, b = .arrow a := by
  cases b with
  | arrow a => exact ⟨a, rfl⟩
  | pair outer inner =>
    obtain ⟨before, after, -, -, joined⟩ := row_pair outer inner
    rw [joined, List.length_append, List.length_cons, List.length_cons] at short
    omega

theorem composite_congr {b c : Bracketing} (same : b.row = c.row) (whole : ¬ Gap b.row) :
    b.composite = c.composite := by
  by_cases several : 2 ≤ b.row.length
  · have starts := b.head?_row
    have stops := b.getLast?_row
    rw [same, head?_row] at starts
    rw [same, getLast?_row] at stops
    rw [composite_of_several several whole, composite_of_several (same ▸ several) (same ▸ whole),
      Option.some.inj starts, Option.some.inj stops]
  · have short := Nat.lt_of_not_ge several
    obtain ⟨a, rfl⟩ := exists_arrow_of_short short
    obtain ⟨d, rfl⟩ := exists_arrow_of_short (same ▸ short)
    cases same
    rfl

theorem row_foldl (b : Bracketing) (others : List Arrow) :
    (others.foldl (fun outer inner => pair outer (arrow inner)) b).row = b.row ++ others := by
  induction others generalizing b with
  | nil => exact (List.append_nil _).symm
  | cons a others ih => rw [List.foldl_cons, ih, row, row, List.append_assoc]; rfl

theorem composite_foldl (b : Bracketing) (others : List Arrow) :
    (others.foldl (fun outer inner => pair outer (arrow inner)) b).composite =
      b.composite >>= others.foldlM Arrow.compose := by
  induction others generalizing b with
  | nil => exact (bind_pure _).symm
  | cons a others ih =>
    rw [List.foldl_cons, ih, composite]
    cases b.composite <;> rfl

/-- However the arrows of a row are put in brackets, they compose exactly when all neighbours meet,
and then to the same arrow. Composing a row from the left is one such way. -/
theorem any_bracketing_composes_alike :
    (∀ b : Bracketing, (∃ clash, b.composite = .error clash) ↔ Gap b.row) ∧
    (∀ (b : Bracketing) (first last : Arrow) (between : List Arrow),
      b.row = first :: between ++ [last] → ¬ Gap b.row →
        b.composite = .ok ⟨last.source, first.target, none⟩) ∧
    (∀ b c : Bracketing, b.row = c.row → ¬ Gap b.row → b.composite = c.composite) ∧
    ∀ (a : Arrow) (others : List Arrow), (fromLeft a others).row = a :: others ∧
      Graph.composeAll (a :: others) = (fromLeft a others).composite.mapError .mismatch := by
  refine ⟨broken_iff_gap, fun b first last between => composite_row,
    fun b c => composite_congr, ?_⟩
  · intro a others
    refine ⟨row_foldl (.arrow a) others, ?_⟩
    rw [fromLeft, composite_foldl]
    rfl

/-- Three arrows compose from either side. With the last two exchanged they do not, though the last
and the first would meet. -/
theorem any_bracketing_composes_alike_three :
    let f : Arrow := ⟨"a", "b", some "f"⟩
    let g : Arrow := ⟨"b", "c", some "g"⟩
    let h : Arrow := ⟨"c", "a", some "h"⟩
    let left : Bracketing := .pair (.pair (.arrow h) (.arrow g)) (.arrow f)
    let right : Bracketing := .pair (.arrow h) (.pair (.arrow g) (.arrow f))
    left.row = right.row ∧ ¬ Gap left.row ∧ left.composite = right.composite ∧
      right.composite = .ok ⟨"a", "a", none⟩ ∧
      (fromLeft h [f, g]).row = [h, f, g] ∧ Gap (fromLeft h [f, g]).row ∧
      ∃ clash, (fromLeft h [f, g]).composite = .error clash := by
  intro f g h left right
  obtain ⟨broken, whole, same, leftmost⟩ := any_bracketing_composes_alike
  have meet : ¬ Gap left.row := by
    rw [Arrow.not_gap_iff]
    simp [left, row, Meets, f, g, h]
  have apart : Gap (fromLeft h [f, g]).row := ⟨[], h, f, [g], rfl, by decide⟩
  exact ⟨rfl, meet, same left right rfl meet, whole right h f [g] rfl meet, (leftmost h [f, g]).1,
    apart, (broken _).mpr apart⟩

end Bracketing
end ArrowGraph
