import Mathlib.Data.List.Infix
import Mathlib.Data.List.Nodup
import Mathlib.Logic.Function.Basic

/-!
# Cells with an undo journal

A store of cells in which every write leaves the value it replaced in a
journal, under the identifier of the write; undoing a write puts the
journalled value back and forgets it.

The writes that have not been undone are kept, newest first, as a list
`live`. What the cells *should* hold is `current`: the value of the newest
live write of the cell, or its initial value. `Consistent` says that they
do, and that every live write's journal entry is the value the older live
writes give its cell. A write keeps `Consistent` (`Consistent.write`);
undoing keeps it for the newest live write of a cell
(`Consistent.undo`). Undoing an older one does not: its journal entry
predates the newer write that is still live.
-/

namespace Journal

variable {κ ι V : Type*}

/-- A write: its identifier, the cell and the value. -/
structure Entry (κ ι V : Type*) where
  id : ι
  cell : κ
  value : V
deriving Repr, DecidableEq

@[ext] structure Store (κ ι V : Type*) where
  cells : κ → Option V
  journal : ι → Option V

variable [DecidableEq κ]

/-- The value of the newest live write of the cell, or the initial one. -/
def current (init : κ → Option V) (live : List (Entry κ ι V)) (cell : κ) : Option V :=
  match live.find? (·.cell = cell) with
  | some e => some e.value
  | none => init cell

section

variable {init : κ → Option V} {live : List (Entry κ ι V)}

theorem current_cons_self (e : Entry κ ι V) :
    current init (e :: live) e.cell = some e.value := by
  simp [current]

theorem current_cons_of_ne {e : Entry κ ι V} {cell : κ} (h : e.cell ≠ cell) :
    current init (e :: live) cell = current init live cell := by
  simp [current, h]

/-- Entries of other cells do not matter. -/
theorem current_append_of_forall_ne {newer : List (Entry κ ι V)} {cell : κ}
    (h : ∀ e ∈ newer, e.cell ≠ cell) :
    current init (newer ++ live) cell = current init live cell := by
  induction newer with
  | nil => rfl
  | cons e es ih =>
      rw [List.cons_append, current_cons_of_ne (h e List.mem_cons_self),
        ih fun e' he' => h e' (List.mem_cons_of_mem _ he')]

/-- Dropping an entry from the middle changes at most its own cell. -/
theorem current_drop_of_ne {newer : List (Entry κ ι V)} {e : Entry κ ι V} {cell : κ}
    (h : e.cell ≠ cell) :
    current init (newer ++ e :: live) cell = current init (newer ++ live) cell := by
  induction newer with
  | nil => exact current_cons_of_ne h
  | cons e' es ih =>
      by_cases he' : e'.cell = cell
      · subst he'
        rw [List.cons_append, List.cons_append, current_cons_self, current_cons_self]
      · rw [List.cons_append, List.cons_append, current_cons_of_ne he',
          current_cons_of_ne he', ih]

end

/-- Every live write's journal entry is what the older live writes give
its cell. -/
def Chained (init : κ → Option V) (journal : ι → Option V) : List (Entry κ ι V) → Prop
  | [] => True
  | e :: older =>
      (journal e.id = current init older e.cell ∧ (journal e.id).isSome)
        ∧ Chained init journal older

section

variable {init : κ → Option V} {journal journal' : ι → Option V}

theorem Chained.congr {live : List (Entry κ ι V)} (h : Chained init journal live)
    (heq : ∀ e ∈ live, journal' e.id = journal e.id) : Chained init journal' live := by
  induction live with
  | nil => trivial
  | cons e older ih =>
      have holder : ∀ e' ∈ older, journal' e'.id = journal e'.id := by
        intro e' he'
        exact heq e' (List.mem_cons_of_mem e he')
      refine ⟨?_, ih h.2 holder⟩
      rw [heq e List.mem_cons_self]
      exact h.1

theorem Chained.older {newer live : List (Entry κ ι V)}
    (h : Chained init journal (newer ++ live)) : Chained init journal live := by
  induction newer with
  | nil => exact h
  | cons e es ih => exact ih h.2

/-- Without a live write `e` that is the newest of its cell, the others
are still chained: none of the newer ones looks at `e`'s cell. -/
theorem Chained.drop {newer older : List (Entry κ ι V)} {e : Entry κ ι V}
    (h : Chained init journal (newer ++ e :: older)) (hne : ∀ e' ∈ newer, e'.cell ≠ e.cell) :
    Chained init journal (newer ++ older) := by
  induction newer with
  | nil => exact h.2
  | cons e' es ih =>
      obtain ⟨⟨hj, hsome⟩, hrest⟩ := h
      have hother : e.cell ≠ e'.cell := Ne.symm (hne e' List.mem_cons_self)
      have hes : ∀ e'' ∈ es, e''.cell ≠ e.cell := by
        intro e'' he''
        exact hne e'' (List.mem_cons_of_mem e' he'')
      exact ⟨⟨hj.trans (current_drop_of_ne hother), hsome⟩, ih hrest hes⟩

end

/-- The store is what the live writes, newest first, make of `init`. -/
structure Consistent (init : κ → Option V) (s : Store κ ι V) (live : List (Entry κ ι V)) :
    Prop where
  cells : s.cells = current init live
  chained : Chained init s.journal live
  nodup : (live.map Entry.id).Nodup

section

variable {init : κ → Option V} {s : Store κ ι V}

theorem consistent_nil (s : Store κ ι V) : Consistent s.cells s [] :=
  ⟨rfl, trivial, List.nodup_nil⟩

/-- The journal holds, for the newest live write of a cell, the value the
cell has once that write is gone. -/
theorem Consistent.journal_newest {newer older : List (Entry κ ι V)} {e : Entry κ ι V}
    (h : Consistent init s (newer ++ e :: older)) (hne : ∀ e' ∈ newer, e'.cell ≠ e.cell) :
    s.journal e.id = current init (newer ++ older) e.cell := by
  rw [current_append_of_forall_ne hne]
  exact h.chained.older.1.1

theorem Consistent.nodup_drop {newer older : List (Entry κ ι V)} {e : Entry κ ι V}
    (h : Consistent init s (newer ++ e :: older)) :
    (∀ e' ∈ newer ++ older, e'.id ≠ e.id) ∧ ((newer ++ older).map Entry.id).Nodup := by
  have hnodup := h.nodup
  rw [List.map_append, List.map_cons, List.nodup_middle, List.nodup_cons,
    ← List.map_append] at hnodup
  exact ⟨fun e' he' hid => hnodup.1 (List.mem_map.mpr ⟨e', he', hid⟩), hnodup.2⟩

end

variable [DecidableEq ι]

namespace Store

/-- Write `e` over `old`, the value its cell has now. -/
def write (s : Store κ ι V) (e : Entry κ ι V) (old : V) : Store κ ι V :=
  { cells := Function.update s.cells e.cell (some e.value),
    journal := Function.update s.journal e.id (some old) }

/-- Put the journalled value `old` of the write `id` back into `cell`. -/
def undo (s : Store κ ι V) (id : ι) (cell : κ) (old : V) : Store κ ι V :=
  { cells := Function.update s.cells cell (some old),
    journal := Function.update s.journal id none }

end Store

variable {init : κ → Option V} {s : Store κ ι V} {live : List (Entry κ ι V)}

theorem Consistent.write (h : Consistent init s live) {e : Entry κ ι V} {old : V}
    (hold : s.cells e.cell = some old) (hfresh : ∀ e' ∈ live, e'.id ≠ e.id) :
    Consistent init (s.write e old) (e :: live) where
  cells := by
    funext cell
    by_cases hc : e.cell = cell
    · subst hc
      rw [current_cons_self]
      exact Function.update_self ..
    · rw [current_cons_of_ne hc, ← h.cells]
      exact Function.update_of_ne (Ne.symm hc) ..
  chained := by
    refine ⟨?_, h.chained.congr fun e' he' => Function.update_of_ne (hfresh e' he') ..⟩
    have hj : (s.write e old).journal e.id = some old := Function.update_self ..
    rw [hj, ← h.cells, hold]
    exact ⟨rfl, rfl⟩
  nodup := by
    rw [List.map_cons, List.nodup_cons]
    refine ⟨fun hmem => ?_, h.nodup⟩
    obtain ⟨e', he', hid⟩ := List.mem_map.mp hmem
    exact hfresh e' he' hid

theorem Consistent.undo {newer older : List (Entry κ ι V)} {e : Entry κ ι V} {old : V}
    (h : Consistent init s (newer ++ e :: older)) (hne : ∀ e' ∈ newer, e'.cell ≠ e.cell)
    (hold : s.journal e.id = some old) :
    Consistent init (s.undo e.id e.cell old) (newer ++ older) where
  cells := by
    funext cell
    by_cases hc : e.cell = cell
    · subst hc
      rw [← h.journal_newest hne, hold]
      exact Function.update_self ..
    · rw [← current_drop_of_ne hc, ← h.cells]
      exact Function.update_of_ne (Ne.symm hc) ..
  chained := (h.chained.drop hne).congr fun e' he' =>
    Function.update_of_ne (h.nodup_drop.1 e' he') ..
  nodup := h.nodup_drop.2

/-! ## Back to the beginning -/

/-- Apart from the live writes the journal is that of `init`, which knows
none of them. -/
structure Untouched (init s : Store κ ι V) (live : List (Entry κ ι V)) : Prop where
  others : ∀ id, (∀ e ∈ live, e.id ≠ id) → s.journal id = init.journal id
  fresh : ∀ e ∈ live, init.journal e.id = none

section

variable {init : Store κ ι V}

omit [DecidableEq κ] [DecidableEq ι] in
theorem untouched_nil (s : Store κ ι V) : Untouched s s [] where
  others _ _ := rfl
  fresh e he := by cases he

theorem Untouched.write (h : Untouched init s live) {e : Entry κ ι V}
    (hfresh : init.journal e.id = none) (old : V) :
    Untouched init (s.write e old) (e :: live) where
  others id hid := by
    have hne : id ≠ e.id := Ne.symm (hid e List.mem_cons_self)
    have hlive : ∀ e' ∈ live, e'.id ≠ id := by
      intro e' he'
      exact hid e' (List.mem_cons_of_mem e he')
    exact (Function.update_of_ne hne ..).trans (h.others id hlive)
  fresh e' he' := by
    rcases List.mem_cons.mp he' with rfl | he'
    · exact hfresh
    · exact h.fresh e' he'

theorem Untouched.undo {newer older : List (Entry κ ι V)} {e : Entry κ ι V}
    (h : Untouched init s (newer ++ e :: older)) (cell : κ) (old : V) :
    Untouched init (s.undo e.id cell old) (newer ++ older) where
  others id hid := by
    by_cases heq : id = e.id
    · subst heq
      have hnone : init.journal e.id = none := h.fresh e (by simp)
      rw [hnone]
      exact Function.update_self ..
    · refine (Function.update_of_ne heq ..).trans (h.others id fun e' he' => ?_)
      rcases List.mem_append.mp he' with hn | ho
      · exact hid e' (List.mem_append_left older hn)
      · rcases List.mem_cons.mp ho with rfl | ho
        · exact Ne.symm heq
        · exact hid e' (List.mem_append_right newer ho)
  fresh e' he' := by
    refine h.fresh e' ?_
    rcases List.mem_append.mp he' with hn | ho
    · exact List.mem_append_left _ hn
    · exact List.mem_append_right _ (List.mem_cons_of_mem e ho)

omit [DecidableEq ι] in
/-- With nothing live the store is the initial one. -/
theorem eq_of_nothing_live (hcells : Consistent init.cells s []) (h : Untouched init s []) :
    s = init := by
  refine Store.ext (hcells.cells.trans rfl) ?_
  funext id
  exact h.others id fun e he => (by cases he)

end

end Journal
