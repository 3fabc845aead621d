import Mathlib.Data.List.Basic
import Mathlib.Order.Basic

/-!
# Tables with a serial key

The rows of a table in the order of their insertion, each under the number a
sequence gave it. The sequence only moves forward, so that keys increase along
the rows and none is given twice. A statement that updates by key says how many
rows it has changed.

`update_insert`: an update under the newest key changes the newest row and no
other, so that a row that is written in several statements is as if it had been
inserted in its last form.
-/

structure Table (ρ : Type*) where
  rows : List (Nat × ρ)
  nextId : Nat
  increasing : (rows.map Prod.fst).Pairwise (· < ·)
  below : ∀ entry ∈ rows, entry.1 < nextId

namespace Table

variable {ρ : Type*} (t : Table ρ)

/-- A table without rows. -/
def empty : Table ρ :=
  { rows := [], nextId := 1, increasing := .nil,
    below := fun _ hentry => absurd hentry List.not_mem_nil }

/-- The rows without their keys. -/
def values : List ρ := t.rows.map Prod.snd

/-- The row under a key. -/
def find? (id : Nat) : Option ρ := t.rows.lookup id

/-- `INSERT … RETURNING id`. -/
def insert (row : ρ) : Table ρ × Nat :=
  ({ rows := t.rows ++ [(t.nextId, row)]
     nextId := t.nextId + 1
     increasing := by
      rw [List.map_append, List.pairwise_append]
      refine ⟨t.increasing, List.pairwise_singleton _ _, ?_⟩
      intro old hold new hnew
      obtain ⟨entry, hentry, rfl⟩ := List.mem_map.mp hold
      obtain rfl := List.mem_singleton.mp hnew
      exact t.below entry hentry
     below := by
      intro entry hentry
      rcases List.mem_append.mp hentry with hold | hnew
      · exact Nat.lt_succ_of_lt (t.below entry hold)
      · obtain rfl := List.mem_singleton.mp hnew
        exact Nat.lt_succ_self _ }, t.nextId)

/-- The change of `UPDATE … WHERE id = …` to one row. -/
def rewrite (id : Nat) (f : ρ → ρ) (entry : Nat × ρ) : Nat × ρ :=
  if entry.1 = id then (entry.1, f entry.2) else entry

theorem fst_rewrite (id : Nat) (f : ρ → ρ) (entry : Nat × ρ) :
    (rewrite id f entry).1 = entry.1 := by
  unfold rewrite
  split_ifs with h
  · rfl
  · rfl

theorem map_fst_rewrite (id : Nat) (f : ρ → ρ) (rows : List (Nat × ρ)) :
    (rows.map (rewrite id f)).map Prod.fst = rows.map Prod.fst := by
  rw [List.map_map]
  exact List.map_congr_left fun entry _ => fst_rewrite id f entry

/-- `UPDATE … WHERE id = …`, with the number of rows it affects. -/
def update (id : Nat) (f : ρ → ρ) : Table ρ × Nat :=
  ({ rows := t.rows.map (rewrite id f)
     nextId := t.nextId
     increasing := by rw [map_fst_rewrite]; exact t.increasing
     below := by
      intro entry hentry
      obtain ⟨old, hold, rfl⟩ := List.mem_map.mp hentry
      rw [fst_rewrite]
      exact t.below old hold }, t.rows.countP fun entry => decide (entry.1 = id))

variable {t}

@[ext] theorem ext {t t' : Table ρ} (hrows : t.rows = t'.rows) (hnext : t.nextId = t'.nextId) :
    t = t' := by
  cases t
  cases t'
  cases hrows
  cases hnext
  rfl

@[simp] theorem values_insert (row : ρ) : (t.insert row).1.values = t.values ++ [row] := by
  unfold values insert
  rw [List.map_append]
  rfl

@[simp] theorem insert_snd (row : ρ) : (t.insert row).2 = t.nextId := rfl

theorem ne_nextId {entry : Nat × ρ} (h : entry ∈ t.rows) : entry.1 ≠ t.nextId :=
  Nat.ne_of_lt (t.below entry h)

/-- **An update of the newest row.** -/
theorem update_insert (row : ρ) (f : ρ → ρ) :
    (t.insert row).1.update t.nextId f = ((t.insert (f row)).1, 1) := by
  have hold : ∀ entry ∈ t.rows, rewrite t.nextId f entry = entry := fun entry hentry =>
    if_neg (ne_nextId hentry)
  have hcount : t.rows.countP (fun entry => decide (entry.1 = t.nextId)) = 0 :=
    List.countP_eq_zero.mpr fun entry hentry => by simpa using ne_nextId hentry
  refine Prod.ext (Table.ext ?_ rfl) ?_
  · change (t.rows ++ [(t.nextId, row)]).map _ = t.rows ++ [(t.nextId, f row)]
    rw [List.map_append, List.map_congr_left hold, List.map_id']
    simp [rewrite]
  · change (t.rows ++ [(t.nextId, row)]).countP _ = 1
    rw [List.countP_append, hcount]
    simp

/-- The newest row is found under its key. -/
theorem find?_insert_self (row : ρ) : (t.insert row).1.find? t.nextId = some row := by
  have hold : t.rows.lookup t.nextId = none :=
    List.lookup_eq_none_iff.mpr fun entry hentry => by simpa using (ne_nextId hentry).symm
  change (t.rows ++ [(t.nextId, row)]).lookup t.nextId = some row
  rw [List.lookup_append, hold]
  simp

/-- An insertion leaves the rows there were under their keys. -/
theorem find?_insert_of_find? {id : Nat} {old : ρ} (h : t.find? id = some old) (row : ρ) :
    (t.insert row).1.find? id = some old := by
  unfold find? at h
  change (t.rows ++ [(t.nextId, row)]).lookup id = some old
  rw [List.lookup_append, h]
  rfl

end Table
