import Mathlib.Data.List.Basic
import Mathlib.Data.List.Nodup

/-!
# Two calls an item

A batch that holds two calls for each item, next to each other, is answered
in the order of its calls. The answers of an item are then found by position
(`align`). `mem_align_iff`: for one answer a call and no call twice, these are
the answers to the item's own calls.
-/

namespace Interleave

variable {ι κ ρ : Type} (first second : ι → κ)

def calls (items : List ι) : List κ := items.flatMap fun item => [first item, second item]

/-- Each item with the two answers at its position. -/
def align : List ι → List ρ → List (ι × ρ × ρ)
  | item :: items, a :: b :: answers => (item, a, b) :: align items answers
  | _, _ => []

/-- The answers that the batch gave to the two calls of the item. -/
def Answers (items : List ι) (answers : List ρ) (item : ι) (a b : ρ) : Prop :=
  (first item, a) ∈ (calls first second items).zip answers
    ∧ (second item, b) ∈ (calls first second items).zip answers

theorem calls_cons (item : ι) (items : List ι) :
    calls first second (item :: items)
      = first item :: second item :: calls first second items := rfl

theorem length_calls (items : List ι) :
    (calls first second items).length = 2 * items.length := by
  induction items with
  | nil => rfl
  | cons item items ih =>
      rw [calls_cons, List.length_cons, List.length_cons, ih, List.length_cons]
      omega

theorem mem_calls {items : List ι} {item : ι} (h : item ∈ items) :
    first item ∈ calls first second items ∧ second item ∈ calls first second items := by
  constructor
  · exact List.mem_flatMap.mpr ⟨item, h, List.mem_cons_self⟩
  · exact List.mem_flatMap.mpr ⟨item, h, List.mem_cons_of_mem _ List.mem_cons_self⟩

section Align

variable {item : ι} {items : List ι} {answers : List ρ} {a b : ρ}

/-- Two answers for each item, taken apart. -/
theorem eq_cons_of_length (h : answers.length = 2 * (item :: items).length) :
    ∃ a b rest, answers = a :: b :: rest ∧ rest.length = 2 * items.length := by
  rcases answers with _ | ⟨a, _ | ⟨b, rest⟩⟩
  · cases h
  · simp only [List.length_cons, List.length_nil] at h
    omega
  · refine ⟨a, b, rest, rfl, ?_⟩
    simp only [List.length_cons] at h
    omega

theorem map_fst_align (h : answers.length = 2 * items.length) :
    (align items answers).map Prod.fst = items := by
  induction items generalizing answers with
  | nil => rfl
  | cons item items ih =>
      obtain ⟨a, b, rest, rfl, hrest⟩ := eq_cons_of_length h
      rw [align, List.map_cons, ih hrest]

theorem mem_of_mem_align (h : answers.length = 2 * items.length) {aligned : ι × ρ × ρ}
    (hmem : aligned ∈ align items answers) : aligned.1 ∈ items := by
  rw [← map_fst_align h]
  exact List.mem_map_of_mem hmem

variable {first second}

theorem answers_head (hnodup : (calls first second (item :: items)).Nodup) {a' b' : ρ} :
    Answers first second (item :: items) (a :: b :: answers) item a' b' ↔ a' = a ∧ b' = b := by
  rw [calls_cons, List.nodup_cons, List.nodup_cons, List.mem_cons, not_or] at hnodup
  obtain ⟨⟨hne, hfirst⟩, hsecond, -⟩ := hnodup
  have hnone : ∀ {call}, call ∉ calls first second items → ∀ answer,
      (call, answer) ∉ (calls first second items).zip answers :=
    fun hcall answer hmem => hcall (List.of_mem_zip hmem).1
  simp only [Answers, calls_cons, List.zip_cons_cons, List.mem_cons, Prod.mk.injEq, true_and,
    hne, Ne.symm hne, false_and, hnone hfirst, hnone hsecond, or_false, false_or]

theorem answers_tail (hnodup : (calls first second (item :: items)).Nodup) {other : ι}
    (hother : other ∈ items) {a' b' : ρ} :
    Answers first second (item :: items) (a :: b :: answers) other a' b'
      ↔ Answers first second items answers other a' b' := by
  rw [calls_cons, List.nodup_cons, List.nodup_cons, List.mem_cons, not_or] at hnodup
  obtain ⟨⟨-, hfirst⟩, hsecond, -⟩ := hnodup
  obtain ⟨hmem, hmem'⟩ := mem_calls first second hother
  have hne : ∀ {call call'}, call ∉ calls first second items →
      call' ∈ calls first second items → call' ≠ call := by
    rintro call call' hcall hcall' rfl
    exact hcall hcall'
  simp only [Answers, calls_cons, List.zip_cons_cons, List.mem_cons, Prod.mk.injEq,
    hne hfirst hmem, hne hsecond hmem, hne hfirst hmem', hne hsecond hmem', false_and, false_or]

/-- **Answers are aligned.** The answers at an item's position are those to
its own calls, and no others are. -/
theorem mem_align_iff (hnodup : (calls first second items).Nodup)
    (hlength : answers.length = 2 * items.length) (hitem : item ∈ items) :
    (item, a, b) ∈ align items answers ↔ Answers first second items answers item a b := by
  induction items generalizing answers with
  | nil => cases hitem
  | cons head items ih =>
      obtain ⟨a', b', rest, rfl, hrest⟩ := eq_cons_of_length hlength
      have htail : (calls first second items).Nodup := by
        rw [calls_cons, List.nodup_cons, List.nodup_cons] at hnodup
        exact hnodup.2.2
      -- the head is not an item of the tail, since its calls would be made twice
      have hfresh : head ∉ items := by
        intro hin
        rw [calls_cons, List.nodup_cons] at hnodup
        exact hnodup.1 (List.mem_cons_of_mem _ (mem_calls first second hin).1)
      rw [align, List.mem_cons, Prod.mk.injEq, Prod.mk.injEq]
      rcases List.mem_cons.mp hitem with rfl | hin
      · rw [answers_head hnodup]
        constructor
        · rintro (⟨-, ha, hb⟩ | haligned)
          · exact ⟨ha, hb⟩
          · exact absurd (mem_of_mem_align hrest haligned) hfresh
        · rintro ⟨rfl, rfl⟩
          exact .inl ⟨rfl, rfl, rfl⟩
      · rw [answers_tail hnodup hin, ← ih htail hrest hin]
        constructor
        · rintro (⟨rfl, -⟩ | haligned)
          · exact absurd hin hfresh
          · exact haligned
        · exact .inr

/-- Every item has its answers. -/
theorem exists_mem_align (hlength : answers.length = 2 * items.length) (hitem : item ∈ items) :
    ∃ a b, (item, a, b) ∈ align items answers := by
  rw [← map_fst_align hlength] at hitem
  obtain ⟨⟨item, a, b⟩, haligned, rfl⟩ := List.mem_map.mp hitem
  exact ⟨a, b, haligned⟩

end Align

end Interleave
