import BaseEngine.Lib.Run

/-!
# Operations on separate parts of a state

A state is read cell by cell through `get`, and every cell belongs to a part of
the state (`part`). An operation that is local to a part (`Local`) changes no
cell of another part, and what it writes and returns depends on the cells of its
own part alone.

In a run of local operations each part goes its own way: what becomes of it, and
what its operations return, is what a run of these operations alone makes of it
(`run_part`). Two runs that agree on the order of the operations within each
part therefore end in the same state (`final_eq_of_parts`), however the parts
are interleaved.
-/

namespace Cells

variable {σ ο ι κ ν ρ : Type*}

/-- The operations of a run, each with what it returned. -/
def returns (step : σ → ο → σ) (result : σ → ο → ρ) : σ → List ο → List (ο × ρ)
  | _, [] => []
  | s, o :: os => (o, result s o) :: returns step result (step s o) os

/-- An operation of the run returned what it returns in some state. -/
theorem exists_of_mem_returns {step : σ → ο → σ} {result : σ → ο → ρ} {s : σ} {ops : List ο}
    {entry : ο × ρ} (h : entry ∈ returns step result s ops) :
    ∃ t, entry.2 = result t entry.1 := by
  induction ops generalizing s with
  | nil => exact absurd h List.not_mem_nil
  | cons o os ih =>
      rcases List.mem_cons.mp h with rfl | h
      · exact ⟨s, rfl⟩
      · exact ih h

section Parts

variable (get : σ → ι → ν) (part : ι → κ)

/-- The two states have the same content in a part. -/
def AgreeOn (k : κ) (s t : σ) : Prop := ∀ c, part c = k → get s c = get t c

variable (step : σ → ο → σ) (result : σ → ο → ρ) (of : ο → Option κ)

/-- The operation works on the part it belongs to, if it belongs to one. -/
structure Local (o : ο) : Prop where
  frame : ∀ s c, of o ≠ some (part c) → get (step s o) c = get s c
  writes : ∀ s t k, of o = some k → AgreeOn get part k s t →
    AgreeOn get part k (step s o) (step t o)
  result : ∀ s t k, of o = some k → AgreeOn get part k s t → result s o = result t o

variable {get part step result of} {k : κ} {s t : σ} {ops ops' : List ο}

theorem AgreeOn.refl (k : κ) (s : σ) : AgreeOn get part k s s := fun _ _ => rfl

theorem AgreeOn.step_left {o : ο} (h : Local get part step result of o) (hk : of o ≠ some k)
    (hagree : AgreeOn get part k s t) : AgreeOn get part k (step s o) t := by
  rintro c rfl
  rw [h.frame s c hk]
  exact hagree c rfl

variable [DecidableEq κ]

/-- A part and what its operations return come from these operations alone. -/
theorem run_part (hlocal : ∀ o ∈ ops, Local get part step result of o)
    (hagree : AgreeOn get part k s t) :
    AgreeOn get part k (Run.final step s ops)
        (Run.final step t (ops.filter fun o => of o = some k))
      ∧ (returns step result s ops).filter (fun entry => of entry.1 = some k)
        = returns step result t (ops.filter fun o => of o = some k) := by
  induction ops generalizing s t with
  | nil => exact ⟨hagree, rfl⟩
  | cons o os ih =>
      have ho := hlocal o List.mem_cons_self
      have hos : ∀ o' ∈ os, Local get part step result of o' :=
        fun o' h => hlocal o' (List.mem_cons_of_mem o h)
      by_cases hk : of o = some k
      · obtain ⟨hfinal, hreturns⟩ := ih hos (ho.writes s t k hk hagree)
        rw [List.filter_cons_of_pos (by simpa using hk)]
        refine ⟨hfinal, ?_⟩
        rw [returns, List.filter_cons_of_pos (by simpa using hk), hreturns, returns,
          ho.result s t k hk hagree]
      · obtain ⟨hfinal, hreturns⟩ := ih hos (hagree.step_left ho hk)
        rw [List.filter_cons_of_neg (by simpa using hk)]
        refine ⟨hfinal, ?_⟩
        rw [returns, List.filter_cons_of_neg (by simpa using hk), hreturns]

/-- The order of the operations within each part decides the final state. -/
theorem final_eq_of_parts (hext : ∀ s t : σ, (∀ c, get s c = get t c) → s = t)
    (hlocal : ∀ o ∈ ops, Local get part step result of o)
    (hlocal' : ∀ o ∈ ops', Local get part step result of o)
    (hsame : ∀ k, ops.filter (fun o => of o = some k) = ops'.filter fun o => of o = some k) :
    Run.final step s ops = Run.final step s ops' := by
  refine hext _ _ fun c => ?_
  obtain ⟨h, -⟩ := run_part hlocal (AgreeOn.refl (part c) s)
  obtain ⟨h', -⟩ := run_part hlocal' (AgreeOn.refl (part c) s)
  rw [h c rfl, h' c rfl, hsame]

/-- It also decides what the operations of each part return. -/
theorem mem_returns_of_parts (hlocal : ∀ o ∈ ops, Local get part step result of o)
    (hlocal' : ∀ o ∈ ops', Local get part step result of o)
    (hsame : ∀ k, ops.filter (fun o => of o = some k) = ops'.filter fun o => of o = some k)
    {entry : ο × ρ} (hk : of entry.1 = some k) (h : entry ∈ returns step result s ops') :
    entry ∈ returns step result s ops := by
  have hfilter : entry ∈ (returns step result s ops').filter fun entry => of entry.1 = some k :=
    List.mem_filter.mpr ⟨h, by simpa using hk⟩
  rw [(run_part hlocal' (AgreeOn.refl k s)).2, ← hsame,
    ← (run_part hlocal (AgreeOn.refl k s)).2] at hfilter
  exact (List.mem_filter.mp hfilter).1

end Parts

end Cells
