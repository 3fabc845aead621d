import Mathlib.Data.List.Chain
import Mathlib.Data.List.Pairwise

/-!
# Tilings of a range

A range of numbers is often worked through in closed intervals of a bounded
size, each where the one before it ended (`Tiles`). `Tiles.covers` says what
that buys: the intervals are consecutive and disjoint, none is longer than the
bound, and together they are the range.
-/

namespace Tiling

/-- Closed intervals from `next` on, of at most `size` numbers each, the last
of which ends with `stop`. -/
inductive Tiles (size stop : Nat) : Nat → List (Nat × Nat) → Prop where
  | done {next : Nat} : next = stop + 1 → Tiles size stop next []
  | step {next last : Nat} {rest : List (Nat × Nat)} :
      next ≤ last → last < next + size → last ≤ stop → Tiles size stop (last + 1) rest →
      Tiles size stop next ((next, last) :: rest)

/-- The intervals work through `[first, stop]` once. -/
structure Covers (size first stop : Nat) (tiles : List (Nat × Nat)) : Prop where
  consecutive : tiles.IsChain fun tile tile' => tile'.1 = tile.2 + 1
  disjoint : tiles.Pairwise fun tile tile' => tile.2 < tile'.1
  bounded : ∀ tile ∈ tiles, tile.1 ≤ tile.2 ∧ tile.2 - tile.1 + 1 ≤ size
  union : ∀ n, (∃ tile ∈ tiles, tile.1 ≤ n ∧ n ≤ tile.2) ↔ first ≤ n ∧ n ≤ stop

namespace Tiles

variable {size stop next : Nat} {tiles : List (Nat × Nat)}

/-- A range can be tiled from any of its numbers on. -/
theorem exists_tiles (hsize : 0 < size) (hnext : next ≤ stop + 1) :
    ∃ tiles, Tiles size stop next tiles := by
  induction hn : stop + 1 - next generalizing next with
  | zero => exact ⟨[], .done (by omega)⟩
  | succ n ih =>
      obtain ⟨rest, hrest⟩ := @ih (next + 1) (by omega) (by omega)
      exact ⟨(next, next) :: rest, .step (Nat.le_refl next) (by omega) (by omega) hrest⟩

/-- A tiling starts where it is to start. -/
theorem fst_of_head (h : Tiles size stop next tiles) {tile : Nat × Nat}
    (hhead : tiles.head? = some tile) : tile.1 = next := by
  cases h with
  | done _ => cases hhead
  | step _ _ _ _ =>
      obtain rfl := Option.some.inj hhead
      rfl

theorem le_fst (h : Tiles size stop next tiles) {tile : Nat × Nat} (hmem : tile ∈ tiles) :
    next ≤ tile.1 := by
  induction h with
  | done _ => cases hmem
  | step hle _ _ _ ih =>
      rcases List.mem_cons.mp hmem with rfl | hmem
      · exact Nat.le_refl _
      · have := ih hmem
        omega

theorem mem_union_iff (h : Tiles size stop next tiles) (n : Nat) :
    (∃ tile ∈ tiles, tile.1 ≤ n ∧ n ≤ tile.2) ↔ next ≤ n ∧ n ≤ stop := by
  induction h with
  | done hnext =>
      simp only [List.not_mem_nil, false_and, exists_false, false_iff]
      omega
  | step hle _ hstop _ ih =>
      simp only [List.mem_cons, exists_eq_or_imp, ih]
      omega

/-- **A tiling covers its range.** -/
theorem covers (h : Tiles size stop next tiles) : Covers size next stop tiles := by
  refine ⟨?_, ?_, ?_, h.mem_union_iff⟩
  · induction h with
    | done _ => exact .nil
    | step _ _ _ hrest ih =>
        refine List.isChain_cons.mpr ⟨fun tile htile => ?_, ih⟩
        exact hrest.fst_of_head htile
  · induction h with
    | done _ => exact .nil
    | step _ _ _ hrest ih =>
        refine List.pairwise_cons.mpr ⟨fun tile htile => ?_, ih⟩
        have := hrest.le_fst htile
        omega
  · induction h with
    | done _ => exact fun tile hmem => absurd hmem List.not_mem_nil
    | step hle hlt _ _ ih =>
        intro tile hmem
        rcases List.mem_cons.mp hmem with rfl | hmem
        · exact ⟨hle, by omega⟩
        · exact ih tile hmem

end Tiles

end Tiling
