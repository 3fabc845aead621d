import Mathlib.Data.List.Nodup
import BaseEngine.Lib.Run
import BaseEngine.Submit

/-!
# Outstanding nonces are distinct

Any number of submitters share one `NonceManager`. Each method runs under
its lock, so that an interleaving is a list of calls of `next` and
`release`. A submitter releases a nonce it was given at most once, from a
spawned task that may run at any later moment (`submitInner_discipline`);
what was given and not released since is *outstanding*.

The counter moves back only when the nonce released is the one before it.
The invariant (`Outstanding.Inv`) says why that is safe: the outstanding
nonces are distinct and below the counter, so that the one right below it
is outstanding once.
-/

namespace BaseEngine

open Machine

/-- `release` names the reservation by its ticket: two reservations of the
same number, at different times, are different ones. -/
inductive NonceOp where
  | next
  | release (ticket : Nat)
deriving Repr, DecidableEq

/-- The manager with the number of reservations made so far and the
outstanding ones, each with its ticket and its nonce. -/
structure Outstanding where
  manager : NonceState
  tickets : Nat
  held : List (Nat × Nat)
deriving Repr, DecidableEq

namespace Outstanding

/-- Right after `sync_from_chain`, whatever the node answered. -/
def synced (pending : Except String Nat) : Outstanding :=
  { manager := (NonceState.default.syncFromChain pending).2, tickets := 0, held := [] }

def nonces (run : Outstanding) : List Nat := run.held.map Prod.snd

/-- A release whose ticket is not outstanding has been made before, or never
will be: a submitter does not release twice. -/
def step (run : Outstanding) : NonceOp → Outstanding
  | .next =>
      match run.manager.reserve with
      | (.error _, manager) => { run with manager }
      | (.ok nonce, manager) =>
          { manager, tickets := run.tickets + 1, held := run.held ++ [(run.tickets, nonce)] }
  | .release ticket =>
      match run.held.find? (·.1 == ticket) with
      | none => run
      | some (_, nonce) =>
          { run with manager := run.manager.release nonce,
                     held := run.held.filter (·.1 != ticket) }

/-- A nonce was reserved only where its successor is a word, so that
`release` does not clamp. -/
structure Inv (run : Outstanding) : Prop where
  nodup : run.nonces.Nodup
  below : ∀ nonce ∈ run.nonces, nonce < run.manager.next
  fits : ∀ nonce ∈ run.nonces, nonce + 1 < 2 ^ 64

theorem inv_synced (pending : Except String Nat) : Inv (synced pending) :=
  ⟨List.nodup_nil, by simp [synced, nonces], by simp [synced, nonces]⟩

/-- A new nonce is the counter, above all outstanding ones. -/
theorem Inv.next {run : Outstanding} (h : Inv run) : Inv (run.step .next) := by
  by_cases hready : run.manager.Ready
  · have hstep : run.step .next
        = { manager := { run.manager with next := run.manager.next + 1 },
            tickets := run.tickets + 1,
            held := run.held ++ [(run.tickets, run.manager.next)] } := by
      simp only [step, NonceState.reserve_of_ready hready]
    have hnonces : (run.step .next).nonces = run.nonces ++ [run.manager.next] := by
      simp [hstep, nonces]
    have hfresh : run.manager.next ∉ run.nonces := fun hmem =>
      Nat.lt_irrefl _ (h.below _ hmem)
    refine ⟨?_, ?_, ?_⟩
    · rw [hnonces, ← List.concat_eq_append]
      exact h.nodup.concat hfresh
    · intro nonce hmem
      rw [hnonces, List.mem_append, List.mem_singleton] at hmem
      rw [hstep]
      rcases hmem with hmem | rfl
      · exact Nat.lt_succ_of_lt (h.below nonce hmem)
      · exact Nat.lt_succ_self _
    · intro nonce hmem
      rw [hnonces, List.mem_append, List.mem_singleton] at hmem
      rcases hmem with hmem | rfl
      · exact h.fits nonce hmem
      · exact hready.2
  · obtain ⟨e, hres⟩ := NonceState.reserve_of_not_ready hready
    have hstep : run.step .next = run := by simp only [step, hres]
    rw [hstep]
    exact h

/-- What is left outstanding after a release was outstanding before, under
another number than the one released. -/
theorem mem_nonces_filter {run : Outstanding} {ticket nonce : Nat} (h : run.nonces.Nodup)
    (hheld : (ticket, nonce) ∈ run.held) {other : Nat}
    (hother : other ∈ (run.held.filter (·.1 != ticket)).map Prod.snd) :
    other ∈ run.nonces ∧ other ≠ nonce := by
  obtain ⟨⟨ticket', nonce'⟩, hmem, rfl⟩ := List.mem_map.mp hother
  obtain ⟨hmem, hticket⟩ := List.mem_filter.mp hmem
  refine ⟨List.mem_map_of_mem hmem, fun heq => ?_⟩
  have hsame := List.inj_on_of_nodup_map h hmem hheld heq
  obtain rfl : ticket' = ticket := congrArg Prod.fst hsame
  simp at hticket

/-- A released nonce is given out again only when it is the one below the
counter; then all the others are below it. -/
theorem Inv.release {run : Outstanding} (h : Inv run) (ticket : Nat) :
    Inv (run.step (.release ticket)) := by
  cases hfind : run.held.find? (·.1 == ticket) with
  | none =>
      have hstep : run.step (.release ticket) = run := by simp only [step, hfind]
      rw [hstep]
      exact h
  | some pair =>
      obtain ⟨ticket', nonce⟩ := pair
      have hstep : run.step (.release ticket)
          = { run with manager := run.manager.release nonce,
                       held := run.held.filter (·.1 != ticket) } := by
        simp only [step, hfind]
      rw [hstep]
      obtain rfl : ticket' = ticket := by simpa using List.find?_some hfind
      have hheld : (ticket', nonce) ∈ run.held := List.mem_of_find?_eq_some hfind
      have hnonce : nonce ∈ run.nonces := List.mem_map_of_mem hheld
      have hleft := @mem_nonces_filter run ticket' nonce h.nodup hheld
      refine ⟨?_, fun other hother => ?_, fun other hother => h.fits other (hleft hother).1⟩
      · exact h.nodup.sublist (List.filter_sublist.map _)
      · obtain ⟨hmem, hne⟩ := hleft hother
        have hbelow := h.below other hmem
        show other < (run.manager.release nonce).next
        unfold NonceState.release
        split_ifs with hlast
        · rw [saturatingAdd_of_lt (h.fits nonce hnonce)] at hlast
          show other < nonce
          omega
        · exact hbelow

theorem Inv.step {run : Outstanding} (h : Inv run) (op : NonceOp) : Inv (run.step op) := by
  cases op with
  | next => exact h.next
  | release ticket => exact h.release ticket

/-- **Nonce uniqueness.** After one synchronisation, however the calls of
any number of submitters interleave and however late the releases come, the
nonces that were given out and not released are distinct, and the counter
is above them. -/
theorem nonces_unique (pending : Except String Nat) (ops : List NonceOp) :
    (Run.final step (synced pending) ops).nonces.Nodup
      ∧ ∀ nonce ∈ (Run.final step (synced pending) ops).nonces,
          nonce < (Run.final step (synced pending) ops).manager.next := by
  have hinv : Inv (Run.final step (synced pending) ops) :=
    Run.inv_final (P := fun _ _ => True) (fun run op h _ => h.step op) (inv_synced pending)
      (Run.along_of_forall fun _ _ => trivial)
  exact ⟨hinv.nodup, hinv.below⟩

/-- Three reservations, the middle one released: its number is not given
out again. After the last one is released too, it is. -/
example :
    (Run.final step (synced (.ok 7)) [.next, .next, .next, .release 1, .next]).nonces = [7, 9, 10]
      ∧ (Run.final step (synced (.ok 7)) [.next, .next, .release 1, .next, .release 0]).nonces
        = [8] := by
  decide

end Outstanding

/-- What a submission does with the manager: it reserves at most once, and
what it releases, at most once, is what it reserved. -/
theorem submitInner_discipline {Calldata Raw : Type}
    (parseAddress : String → Except String EvmAddress) (transport : SubmitTransport)
    (node : Node Calldata Raw) (payload : SubmissionPayload Calldata)
    (attempt : ExecutionAttempt) (state : NonceState) :
    let outcome := submitInner parseAddress transport node payload attempt state
    (outcome.nonce = state ∧ outcome.releases = [])
      ∨ ∃ nonce, state.reserve = (.ok nonce, outcome.nonce)
          ∧ (outcome.releases = [] ∨ outcome.releases = [nonce]) := by
  dsimp only
  unfold submitInner
  cases parseAddress payload.routerAddress with
  | error e => exact Or.inl ⟨rfl, rfl⟩
  | ok target =>
      cases estimateFees transport.caps node.estimateEip1559Fees with
      | error e => exact Or.inl ⟨rfl, rfl⟩
      | ok pricing =>
          by_cases hready : state.Ready
          · have hreserve := NonceState.reserve_of_ready hready
            simp only [hreserve]
            refine Or.inr ⟨state.next, ?_⟩
            cases attempt.gasLimit with
            | none => exact ⟨rfl, Or.inl rfl⟩
            | some gasLimit =>
                dsimp only
                split
                · exact ⟨rfl, Or.inl rfl⟩
                · split
                  · exact ⟨rfl, Or.inl rfl⟩
                  · split
                    · exact ⟨rfl, Or.inr rfl⟩
                    · exact ⟨rfl, Or.inl rfl⟩
          · obtain ⟨e, hreserve⟩ := NonceState.reserve_of_not_ready hready
            simp only [hreserve]
            exact Or.inl ⟨rfl, rfl⟩

end BaseEngine
