import Mathlib.Data.List.Nodup
import Mathlib.Data.List.Perm.Basic
import Mathlib.Data.List.Sigma
import Mathlib.Order.Basic
import Mathlib.Order.Lattice

/-!
# Maps kept in key order

A map that is walked in the order of its keys, as a list of entries with
strictly increasing keys. `insertEntry` is the insertion of such a map; it
replaces the value of a key that is present.

A parser fills the map from a listing of entries in some order (`ofList`).
Walking the map afterwards visits the entries by key, not as they were
listed. The two walks agree exactly where the listing was increasing:
`flatMap_ofList` and its converse `itemsIncreasing_of_keys_eq`, both for a walk
that collects any number of items per entry, where an entry without items
may stand anywhere.
-/

namespace OrderedMap

variable {κ V α : Type*} [LinearOrder κ]

/-- The keys increase strictly along the list. -/
def Increasing (l : List (κ × V)) : Prop := l.Pairwise fun a b => a.1 < b.1

def insertEntry (k : κ) (v : V) : List (κ × V) → List (κ × V)
  | [] => [(k, v)]
  | (k', v') :: rest =>
      if k < k' then (k, v) :: (k', v') :: rest
      else if k = k' then (k, v) :: rest
      else (k', v') :: insertEntry k v rest

theorem mem_insertEntry {k : κ} {v : V} {e : κ × V} :
    ∀ {l : List (κ × V)}, e ∈ insertEntry k v l → e = (k, v) ∨ e ∈ l
  | [], h => Or.inl (List.mem_singleton.mp h)
  | (k', v') :: rest, h => by
      unfold insertEntry at h
      split_ifs at h with hlt heq
      · exact List.mem_cons.mp h
      · exact (List.mem_cons.mp h).imp_right (List.mem_cons_of_mem _)
      · rcases List.mem_cons.mp h with rfl | h
        · exact Or.inr List.mem_cons_self
        · exact (mem_insertEntry h).imp_right (List.mem_cons_of_mem _)

theorem increasing_insertEntry (k : κ) (v : V) :
    ∀ {l : List (κ × V)}, Increasing l → Increasing (insertEntry k v l)
  | [], _ => List.pairwise_singleton _ _
  | (k', v') :: rest, h => by
      obtain ⟨hhead, hrest⟩ := List.pairwise_cons.mp h
      unfold insertEntry
      split_ifs with hlt heq
      · refine List.pairwise_cons.mpr ⟨fun e he => ?_, h⟩
        rcases List.mem_cons.mp he with rfl | he
        · exact hlt
        · exact hlt.trans (hhead e he)
      · subst heq
        exact List.pairwise_cons.mpr ⟨hhead, hrest⟩
      · refine List.pairwise_cons.mpr ⟨fun e he => ?_, increasing_insertEntry k v hrest⟩
        rcases mem_insertEntry he with rfl | he
        · exact lt_of_le_of_ne (not_lt.mp hlt) (Ne.symm heq)
        · exact hhead e he

theorem perm_insertEntry {k : κ} (v : V) :
    ∀ {l : List (κ × V)}, k ∉ l.map Prod.fst → (insertEntry k v l).Perm ((k, v) :: l)
  | [], _ => List.Perm.refl _
  | (k', v') :: rest, h => by
      obtain ⟨hne, hrest⟩ : k ≠ k' ∧ k ∉ rest.map Prod.fst := by
        simpa only [List.map_cons, List.mem_cons, not_or] using h
      unfold insertEntry
      split_ifs with hlt
      · exact List.Perm.refl _
      · exact ((perm_insertEntry v hrest).cons _).trans (List.Perm.swap _ _ _)

theorem lookup_insertEntry_self (k : κ) (v : V) :
    ∀ l : List (κ × V), (insertEntry k v l).lookup k = some v
  | [] => by simp [insertEntry]
  | (k', v') :: rest => by
      unfold insertEntry
      split_ifs with hlt heq
      · simp
      · simp
      · rw [List.lookup_cons, beq_eq_false_iff_ne.mpr heq]
        exact lookup_insertEntry_self k v rest

theorem lookup_insertEntry_of_ne {k j : κ} (v : V) (hj : j ≠ k) :
    ∀ l : List (κ × V), (insertEntry k v l).lookup j = l.lookup j
  | [] => by simp [insertEntry, List.lookup_cons, beq_eq_false_iff_ne.mpr hj]
  | (k', v') :: rest => by
      unfold insertEntry
      split_ifs with hlt heq
      · rw [List.lookup_cons, beq_eq_false_iff_ne.mpr hj]
      · subst heq
        rw [List.lookup_cons, List.lookup_cons, beq_eq_false_iff_ne.mpr hj]
      · rw [List.lookup_cons, List.lookup_cons, lookup_insertEntry_of_ne v hj rest]

end OrderedMap

/-- A map as its entries in key order. -/
structure OrderedMap (κ V : Type*) [LinearOrder κ] where
  entries : List (κ × V)
  increasing : OrderedMap.Increasing entries

namespace OrderedMap

variable {κ V α : Type*} [LinearOrder κ]

def empty : OrderedMap κ V := ⟨[], List.Pairwise.nil⟩

def insert (m : OrderedMap κ V) (k : κ) (v : V) : OrderedMap κ V :=
  ⟨insertEntry k v m.entries, increasing_insertEntry k v m.increasing⟩

/-- The map a parser builds from entries in the order of the text. -/
def ofList (l : List (κ × V)) : OrderedMap κ V :=
  l.foldl (fun m e => m.insert e.1 e.2) empty

/-! ## The map against the listing -/

theorem perm_foldl_insert : ∀ (l : List (κ × V)) (m : OrderedMap κ V),
    ((l ++ m.entries).map Prod.fst).Nodup →
      (l.foldl (fun m e => m.insert e.1 e.2) m).entries.Perm (l ++ m.entries)
  | [], m, _ => List.Perm.refl _
  | e :: l, m, h => by
      have hfresh : e.1 ∉ m.entries.map Prod.fst := by
        intro he
        have hhead : e.1 ∉ (l ++ m.entries).map Prod.fst := (List.nodup_cons.mp h).1
        rw [List.map_append] at hhead
        exact hhead (List.mem_append_right _ he)
      have hins : (m.insert e.1 e.2).entries.Perm (e :: m.entries) :=
        perm_insertEntry e.2 hfresh
      have hmove : (l ++ (m.insert e.1 e.2).entries).Perm (e :: (l ++ m.entries)) :=
        (hins.append_left l).trans List.perm_middle
      have hnodup := (hmove.map Prod.fst).nodup_iff.mpr h
      exact (perm_foldl_insert l (m.insert e.1 e.2) hnodup).trans hmove

/-- With distinct keys the map holds just the listed entries. -/
theorem perm_ofList {l : List (κ × V)} (h : (l.map Prod.fst).Nodup) :
    (ofList l).entries.Perm l := by
  have hperm := perm_foldl_insert l empty (by simpa [empty] using h)
  simpa [ofList, empty] using hperm

/-- Two increasing lists with the same entries are the same list. -/
theorem Increasing.eq_of_perm {l₁ l₂ : List (κ × V)} (h₁ : Increasing l₁)
    (h₂ : Increasing l₂) (hperm : l₁.Perm l₂) : l₁ = l₂ :=
  hperm.eq_of_pairwise (fun _ _ _ _ hab hba => absurd hab hba.asymm) h₁ h₂

/-- Entries that contribute items stand in increasing order of their keys. -/
def ItemsIncreasing (items : κ × V → List α) (l : List (κ × V)) : Prop :=
  l.Pairwise fun a b => items a ≠ [] → items b ≠ [] → a.1 < b.1

theorem flatMap_filter_ne_nil {β : Type*} (items : β → List α) (l : List β) :
    (l.filter fun e => !(items e).isEmpty).flatMap items = l.flatMap items := by
  induction l with
  | nil => rfl
  | cons e l ih =>
      cases he : items e with
      | nil => rw [List.filter_cons_of_neg (by simp [he]), ih, List.flatMap_cons, he]; rfl
      | cons x xs =>
          rw [List.filter_cons_of_pos (by simp [he]), List.flatMap_cons, List.flatMap_cons, ih]

/-- The walk by key collects the items as listed when the contributing
entries were listed by key. -/
theorem flatMap_ofList {items : κ × V → List α} {l : List (κ × V)}
    (hnodup : (l.map Prod.fst).Nodup) (hl : ItemsIncreasing items l) :
    (ofList l).entries.flatMap items = l.flatMap items := by
  have hfilter : (ofList l).entries.filter (fun e => !(items e).isEmpty)
      = l.filter fun e => !(items e).isEmpty := by
    refine Increasing.eq_of_perm ((ofList l).increasing.filter _) ?_
      ((perm_ofList hnodup).filter _)
    refine List.pairwise_filter.mpr (hl.imp fun hlt ha hb => hlt ?_ ?_)
    · intro hnil; simp [hnil] at ha
    · intro hnil; simp [hnil] at hb
  rw [← flatMap_filter_ne_nil items (ofList l).entries, hfilter, flatMap_filter_ne_nil]

/-- The converse, for items that tell the key of their entry: if the two
walks agree on the keys, the contributing entries were listed by key. -/
theorem itemsIncreasing_of_keys_eq {items : κ × V → List α} {keyOf : α → κ}
    {l : List (κ × V)} (hnodup : (l.map Prod.fst).Nodup)
    (hkey : ∀ e ∈ l, ∀ x ∈ items e, keyOf x = e.1)
    (heq : ((ofList l).entries.flatMap items).map keyOf = (l.flatMap items).map keyOf) :
    ItemsIncreasing items l := by
  -- Along the map the keys never decrease, so they do not along the listing.
  have hwalk : (((ofList l).entries.flatMap items).map keyOf).Pairwise (· ≤ ·) := by
    have hkey' : ∀ e ∈ (ofList l).entries, ∀ x ∈ items e, keyOf x = e.1 :=
      fun e he => hkey e ((perm_ofList hnodup).mem_iff.mp he)
    refine List.pairwise_map.mpr (List.pairwise_flatMap.mpr ⟨fun e he => ?_, ?_⟩)
    · exact List.pairwise_of_forall_mem_list fun x hx y hy =>
        (by rw [hkey' e he x hx, hkey' e he y hy])
    · refine (ofList l).increasing.imp_of_mem fun ha hb hlt x hx y hy => ?_
      rw [hkey' _ ha x hx, hkey' _ hb y hy]
      exact hlt.le
  rw [heq] at hwalk
  have hlisted := (List.pairwise_flatMap.mp (List.pairwise_map.mp hwalk)).2
  have hne : l.Pairwise fun a b => a.1 ≠ b.1 := List.pairwise_map.mp hnodup
  refine (hlisted.and hne).imp_of_mem fun ha hb h hna hnb => ?_
  obtain ⟨x, hx⟩ := List.exists_mem_of_ne_nil _ hna
  obtain ⟨y, hy⟩ := List.exists_mem_of_ne_nil _ hnb
  have hle := h.1 x hx y hy
  rw [hkey _ ha x hx, hkey _ hb y hy] at hle
  exact lt_of_le_of_ne hle h.2

end OrderedMap
