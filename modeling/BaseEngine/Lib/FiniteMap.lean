import Mathlib.Data.Finmap

/-!
# Taking an entry out of a finite map and putting it back

A program that owns its map entries removes an entry, works on the value
and inserts the result under the same key. On Mathlib's `Finmap` the two
steps together are one insertion (`insert_erase`), and the map is the
old one when the value did not change (`insert_of_lookup`).
-/

namespace FiniteMap

variable {α : Type*} {β : α → Type*} [DecidableEq α]

theorem insert_erase (s : Finmap β) (a : α) (b : β a) :
    (s.erase a).insert a b = s.insert a b := by
  refine Finmap.ext_lookup fun x => ?_
  by_cases hx : x = a
  · subst hx
    rw [Finmap.lookup_insert, Finmap.lookup_insert]
  · rw [Finmap.lookup_insert_of_ne _ hx, Finmap.lookup_insert_of_ne _ hx,
      Finmap.lookup_erase_ne hx]

theorem insert_of_lookup {s : Finmap β} {a : α} {b : β a}
    (h : s.lookup a = some b) : s.insert a b = s := by
  refine Finmap.ext_lookup fun x => ?_
  by_cases hx : x = a
  · subst hx
    rw [Finmap.lookup_insert, h]
  · rw [Finmap.lookup_insert_of_ne _ hx]

/-- Erasing a key that is present changes the map. -/
theorem erase_ne_self {s : Finmap β} {a : α} {b : β a}
    (h : s.lookup a = some b) : s.erase a ≠ s := by
  intro heq
  have hnone := Finmap.lookup_erase a s
  rw [heq, h] at hnone
  cases hnone

end FiniteMap
