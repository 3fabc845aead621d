import Mathlib.Data.List.Destutter
import Mathlib.Data.List.Sort

/-!
# Ranked lists without repetitions

Sorting by a total order and then dropping neighbours with one key is a
common way to rank and deduplicate. It removes every repetition only if the
sort brings equal keys together; where the keys are distinct to begin with,
nothing is dropped, and the result is the one strictly ranked list of the
elements, whatever order they came in.
-/

namespace Ranking

variable {α κ : Type*} [DecidableEq κ] (le : α → α → Prop) [DecidableRel le] (key : α → κ)

/-- Sorted by `le`; of neighbours with one key the first stays. -/
def ranked (l : List α) : List α := (l.insertionSort le).destutter fun a b => key a ≠ key b

variable {le key} {l l' : List α}

theorem ranked_eq_nil_iff : ranked le key l = [] ↔ l = [] := by
  rw [ranked, List.destutter_eq_nil]
  exact ⟨fun h => by simpa [h] using (List.perm_insertionSort le l).symm, fun h => by simp [h]⟩

/-- The greedy pass keeps its first element. -/
theorem head?_destutter {R : α → α → Prop} [DecidableRel R] (l : List α) :
    (l.destutter R).head? = l.head? := by
  cases l with
  | nil => rfl
  | cons a l =>
      rw [List.destutter_cons']
      induction l with
      | nil => rfl
      | cons b l ih =>
          rw [List.destutter'_cons]
          split
          · rfl
          · exact ih

theorem mem_of_mem_ranked {a : α} (h : a ∈ ranked le key l) : a ∈ l :=
  (List.perm_insertionSort le l).subset ((List.destutter_sublist _ _).subset h)

omit [DecidableEq κ] in
theorem keys_sorted (hkeys : l.Pairwise fun a b => key a ≠ key b) :
    (l.insertionSort le).Pairwise fun a b => key a ≠ key b :=
  ((List.perm_insertionSort le l).pairwise_iff fun h => h.symm).mpr hkeys

/-- Nothing is dropped from elements with distinct keys. -/
theorem ranked_eq_insertionSort (hkeys : l.Pairwise fun a b => key a ≠ key b) :
    ranked le key l = l.insertionSort le :=
  List.destutter_of_isChain _ _ (keys_sorted hkeys).isChain

theorem ranked_perm (hkeys : l.Pairwise fun a b => key a ≠ key b) : (ranked le key l).Perm l := by
  rw [ranked_eq_insertionSort hkeys]
  exact List.perm_insertionSort le l

variable [Std.Total le] [IsTrans α le]

theorem ranked_strict (hkeys : l.Pairwise fun a b => key a ≠ key b) :
    (ranked le key l).Pairwise fun a b => le a b ∧ key a ≠ key b := by
  rw [ranked_eq_insertionSort hkeys]
  exact (List.pairwise_insertionSort le l).and (keys_sorted hkeys)

/-- The first of the ranked elements comes before every element. -/
theorem le_of_head?_ranked {a b : α} (hhead : (ranked le key l).head? = some a) (hb : b ∈ l) :
    le a b := by
  have hsorted : (l.insertionSort le).head? = some a := by
    rwa [ranked, head?_destutter] at hhead
  have hmem : b ∈ l.insertionSort le := (List.perm_insertionSort le l).mem_iff.mpr hb
  have hpairwise := List.pairwise_insertionSort le l
  cases hlist : l.insertionSort le with
  | nil =>
      rw [hlist] at hmem
      cases hmem
  | cons first rest =>
      rw [hlist] at hsorted hmem hpairwise
      obtain rfl := Option.some.inj hsorted
      rcases List.mem_cons.mp hmem with rfl | hrest
      · exact (Std.Total.total b b).elim id id
      · exact List.rel_of_pairwise_cons hpairwise hrest

/-- **The order of the elements does not matter**, if the ranking only ties
on equal keys. -/
theorem ranked_eq_of_perm (htie : ∀ a b, le a b → le b a → key a = key b)
    (hkeys : l.Pairwise fun a b => key a ≠ key b) (hperm : l.Perm l') :
    ranked le key l = ranked le key l' := by
  have hkeys' : l'.Pairwise fun a b => key a ≠ key b :=
    (hperm.pairwise_iff fun h => h.symm).mp hkeys
  have hranked : (ranked le key l).Perm (ranked le key l') :=
    (ranked_perm hkeys).trans (hperm.trans (ranked_perm hkeys').symm)
  refine hranked.eq_of_pairwise ?_ (ranked_strict hkeys) (ranked_strict hkeys')
  -- two elements strictly before each other would tie
  intro a b _ _ hab hba
  exact absurd (htie a b hab.1 hba.1) hab.2

end Ranking
