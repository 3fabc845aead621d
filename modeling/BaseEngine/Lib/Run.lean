import Mathlib.Data.List.Basic
import Mathlib.Data.List.Infix

/-!
# Runs of a step function

A component is a step function `σ → ο → σ`; a run is a list of
operations folded over a start state. Claims about every run are proved
here once: an invariant that every step keeps, under a condition `P` on
the state before the step and the operation, holds in every state the
run passes through (`inv_of_prefix`).

Ghost data (what was accepted so far, what was sent) is carried in the
state, so that the condition of a step may speak about the past of the
run.
-/

namespace Run

variable {σ ο : Type*} (step : σ → ο → σ)

/-- The state a run ends in. -/
def final (s : σ) (ops : List ο) : σ := ops.foldl step s

/-- Every step of the run meets `P`, at the state it starts from. -/
def Along (P : σ → ο → Prop) : σ → List ο → Prop
  | _, [] => True
  | s, o :: os => P s o ∧ Along P (step s o) os

instance decidableAlong (P : σ → ο → Prop) [∀ s o, Decidable (P s o)] :
    ∀ (s : σ) (ops : List ο), Decidable (Along step P s ops)
  | _, [] => inferInstanceAs (Decidable True)
  | s, o :: os =>
      have := decidableAlong P (step s o) os
      inferInstanceAs (Decidable (P s o ∧ Along step P (step s o) os))

variable {step}

@[simp] theorem final_nil (s : σ) : final step s [] = s := rfl

@[simp] theorem final_cons (s : σ) (o : ο) (os : List ο) :
    final step s (o :: os) = final step (step s o) os := rfl

theorem final_append (s : σ) (l₁ l₂ : List ο) :
    final step s (l₁ ++ l₂) = final step (final step s l₁) l₂ := List.foldl_append ..

@[simp] theorem along_nil (P : σ → ο → Prop) (s : σ) : Along step P s [] := trivial

@[simp] theorem along_cons {P : σ → ο → Prop} {s : σ} {o : ο} {os : List ο} :
    Along step P s (o :: os) ↔ P s o ∧ Along step P (step s o) os := Iff.rfl

theorem along_append {P : σ → ο → Prop} {l₁ l₂ : List ο} {s : σ} :
    Along step P s (l₁ ++ l₂) ↔ Along step P s l₁ ∧ Along step P (final step s l₁) l₂ := by
  induction l₁ generalizing s with
  | nil => simp
  | cons o os ih => rw [List.cons_append, along_cons, along_cons, ih, final_cons, and_assoc]

theorem along_and {P Q : σ → ο → Prop} {ops : List ο} {s : σ} :
    Along step (fun s o => P s o ∧ Q s o) s ops ↔ Along step P s ops ∧ Along step Q s ops := by
  induction ops generalizing s with
  | nil => simp
  | cons o os ih =>
      rw [along_cons, along_cons, along_cons, ih]
      tauto

theorem along_mono {P Q : σ → ο → Prop} (hPQ : ∀ s o, P s o → Q s o) {ops : List ο} :
    ∀ {s : σ}, Along step P s ops → Along step Q s ops := by
  induction ops with
  | nil => exact fun _ => trivial
  | cons o os ih => exact fun h => ⟨hPQ _ o h.1, ih h.2⟩

/-- A condition on the operations alone. -/
theorem along_of_forall {P : ο → Prop} {ops : List ο} {s : σ} (h : ∀ o ∈ ops, P o) :
    Along step (fun _ o => P o) s ops := by
  induction ops generalizing s with
  | nil => trivial
  | cons o os ih =>
      exact ⟨h o List.mem_cons_self, ih fun o' ho' => h o' (List.mem_cons_of_mem o ho')⟩

/-- The invariant rule: what every step keeps holds at the end. -/
theorem inv_final {P : σ → ο → Prop} {I : σ → Prop}
    (hstep : ∀ s o, I s → P s o → I (step s o)) {ops : List ο} {s : σ}
    (hs : I s) (h : Along step P s ops) : I (final step s ops) := by
  induction ops generalizing s with
  | nil => exact hs
  | cons o os ih => exact ih (hstep s o hs h.1) h.2

/-- The invariant rule for every state a run passes through. -/
theorem inv_of_prefix {P : σ → ο → Prop} {I : σ → Prop}
    (hstep : ∀ s o, I s → P s o → I (step s o)) {ops pre : List ο} {s : σ}
    (hs : I s) (h : Along step P s ops) (hpre : pre <+: ops) :
    I (final step s pre) := by
  obtain ⟨rest, rfl⟩ := hpre
  exact inv_final hstep hs (along_append.mp h).1

/-- Among the runs whose steps meet `D`: when a step keeps `I` exactly under
`P`, a run keeps `I` in all of its states exactly when all of its steps meet
`P`. -/
theorem forall_prefix_iff_along_of {D P : σ → ο → Prop} {I : σ → Prop}
    (hstep : ∀ s o, I s → D s o → (I (step s o) ↔ P s o)) {ops : List ο} {s : σ} (hs : I s)
    (hD : Along step D s ops) :
    (∀ pre, pre <+: ops → I (final step s pre)) ↔ Along step P s ops := by
  constructor
  · intro h
    induction ops generalizing s with
    | nil => trivial
    | cons o os ih =>
        have hnext : I (step s o) := h [o] (by simp)
        refine ⟨(hstep s o hs hD.1).mp hnext, ih hnext hD.2 fun pre hpre => ?_⟩
        exact h (o :: pre) (List.cons_prefix_cons.mpr ⟨rfl, hpre⟩)
  · intro h pre hpre
    exact inv_of_prefix (fun s o hI hDP => (hstep s o hI hDP.1).mpr hDP.2) hs
      (along_and.mpr ⟨hD, h⟩) hpre

/-- The same among all runs. -/
theorem forall_prefix_iff_along {P : σ → ο → Prop} {I : σ → Prop}
    (hstep : ∀ s o, I s → (I (step s o) ↔ P s o)) {ops : List ο} {s : σ} (hs : I s) :
    (∀ pre, pre <+: ops → I (final step s pre)) ↔ Along step P s ops :=
  forall_prefix_iff_along_of (fun s o hI (_ : True) => hstep s o hI) hs
    (along_of_forall fun _ _ => trivial)

/-- A run that comes to a state with `P` has a first step into one. -/
theorem exists_step_into {P : σ → Prop} {ops : List ο} :
    ∀ {s : σ}, ¬ P s → P (final step s ops) →
      ∃ pre o post, ops = pre ++ o :: post ∧ ¬ P (final step s pre)
        ∧ P (step (final step s pre) o) := by
  induction ops with
  | nil => exact fun hs h => absurd h hs
  | cons o os ih =>
      intro s hs h
      by_cases hnext : P (step s o)
      · exact ⟨[], o, os, rfl, hs, hnext⟩
      · obtain ⟨pre, o', post, rfl, hpre, hinto⟩ := ih hnext h
        exact ⟨o :: pre, o', post, rfl, hpre, hinto⟩

/-- What is kept once it holds. -/
theorem final_of_stable {P : σ → Prop} (hstable : ∀ s o, P s → P (step s o)) {ops : List ο} :
    ∀ {s : σ}, P s → P (final step s ops) := by
  induction ops with
  | nil => exact fun hs => hs
  | cons o os ih => exact fun hs => ih (hstable _ o hs)

theorem along_of_stable {P : σ → Prop} (hstable : ∀ s o, P s → P (step s o)) {ops : List ο} :
    ∀ {s : σ}, P s → Along step (fun s _ => P s) s ops := by
  induction ops with
  | nil => exact fun _ => trivial
  | cons o os ih => exact fun hs => ⟨hs, ih (hstable _ o hs)⟩

/-! ## Thinned runs

A run in which every operation is marked as kept or left out, compared with
the run of the kept operations alone. -/

section Thinned

variable {β : Type*} (step) (out : σ → ο → List β)

/-- What a run puts out. -/
def outputs : σ → List ο → List β
  | _, [] => []
  | s, o :: os => out s o ++ outputs (step s o) os

/-- What the kept operations of a run put out, in the run of all of them. -/
def keptOutputs : σ → List (ο × Bool) → List β
  | _, [] => []
  | s, (o, keep) :: os => (if keep then out s o else []) ++ keptOutputs (step s o) os

/-- The kept operations alone. -/
def kept (ops : List (ο × Bool)) : List ο := (ops.filter Prod.snd).map Prod.fst

variable {step out}

/-- A relation between the two states under which a kept operation puts out
the same on both sides and keeps the relation, and which an operation left
out keeps on one side: then the kept operations put out the same in both
runs. -/
theorem keptOutputs_eq_outputs {R : σ → σ → Prop} {P Q : σ → ο → Prop}
    (hkeep : ∀ s t o, R s t → P s o → out s o = out t o ∧ R (step s o) (step t o))
    (hleave : ∀ s t o, R s t → P s o → Q s o → R (step s o) t) {ops : List (ο × Bool)} :
    ∀ {s t : σ}, R s t → Along (fun s o => step s o.1) (fun s o => P s o.1) s ops →
      Along (fun s o => step s o.1) (fun s o => o.2 = false → Q s o.1) s ops →
      keptOutputs step out s ops = outputs step out t (kept ops) := by
  induction ops with
  | nil => exact fun _ _ _ => rfl
  | cons head os ih =>
      obtain ⟨o, keep⟩ := head
      intro s t hR hP hQ
      cases keep with
      | true =>
          obtain ⟨hout, hR'⟩ := hkeep s t o hR hP.1
          show out s o ++ _ = out t o ++ outputs step out (step t o) (kept os)
          rw [hout, ih hR' hP.2 hQ.2]
      | false => exact ih (hleave s t o hR hP.1 (hQ.1 rfl)) hP.2 hQ.2

end Thinned

/-! ## What a run puts out -/

section Outputs

variable {β : Type*} {out : σ → ο → List β}

theorem outputs_append (l₁ l₂ : List ο) (s : σ) :
    outputs step out s (l₁ ++ l₂)
      = outputs step out s l₁ ++ outputs step out (final step s l₁) l₂ := by
  induction l₁ generalizing s with
  | nil => rfl
  | cons o os ih => rw [List.cons_append, outputs, outputs, ih, List.append_assoc, final_cons]

/-- A relation between the state a run starts in, what it puts out and the
state it ends in holds of every run from a state with the invariant, when it
holds of the empty run and carries over to a run with one more step in front. -/
theorem outputs_final {I : σ → Prop} {R : σ → List β → σ → Prop}
    (hkeep : ∀ s o, I s → I (step s o)) (hnil : ∀ s, I s → R s [] s)
    (hcons : ∀ s o tail t, I s → R (step s o) tail t → R s (out s o ++ tail) t)
    {ops : List ο} : ∀ {s : σ}, I s → R s (outputs step out s ops) (final step s ops) := by
  induction ops with
  | nil => exact fun hs => hnil _ hs
  | cons o os ih => exact fun hs => hcons _ o _ _ hs (ih (hkeep _ o hs))

end Outputs

/-! ## Two levels -/

/-- **Forward simulation.** What every step keeps between two sides, with the
operations of one translated for the other, is kept by every run. -/
theorem final_related {τ π : Type*} {step' : τ → π → τ} {R : σ → τ → Prop} {f : ο → π}
    (hstep : ∀ s t o, R s t → R (step s o) (step' t (f o))) {ops : List ο} :
    ∀ {s : σ} {t : τ}, R s t → R (final step s ops) (final step' t (ops.map f)) := by
  induction ops with
  | nil => exact fun hR => hR
  | cons o os ih => exact fun hR => ih (hstep _ _ o hR)

/-- Operations that one side does not see are left out on the other. -/
theorem final_filter_related {R : σ → σ → Prop} {P : σ → ο → Prop} {keep : ο → Bool}
    (hkeep : ∀ s t o, R s t → R (step s o) (step t o))
    (hleave : ∀ s t o, keep o = false → R s t → P s o → R (step s o) t) {ops : List ο} :
    ∀ {s t : σ}, R s t → Along step P s ops →
      R (final step s ops) (final step t (ops.filter keep)) := by
  induction ops with
  | nil => exact fun hR _ => hR
  | cons o os ih =>
      intro s t hR hP
      cases hseen : keep o with
      | true =>
          rw [List.filter_cons_of_pos hseen]
          exact ih (hkeep s t o hR) hP.2
      | false =>
          rw [List.filter_cons_of_neg (Bool.not_eq_true _ ▸ hseen)]
          exact ih (hleave s t o hseen hR hP.1) hP.2

end Run
