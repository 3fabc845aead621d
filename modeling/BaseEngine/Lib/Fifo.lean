import Mathlib.Data.List.Basic

/-!
# A bounded queue with several senders

Items wait in one queue in the order they were sent. `taken` records what the
receiver got, so that `history` is everything that was ever sent. The items of
one sender keep their order, and none is lost or doubled on the way: a send adds
to what its sender has sent and to nothing else (`ofSender_send_self`,
`ofSender_send_of_ne`), and a reception changes nothing of it (`receive_spec`).
-/

/-- The state of the queue. -/
structure Fifo (ι α : Type*) where
  capacity : Nat
  queue : List (ι × α)
  taken : List (ι × α)

namespace Fifo

variable {ι α : Type*}

def empty (capacity : Nat) : Fifo ι α := { capacity, queue := [], taken := [] }

def hasRoom (c : Fifo ι α) : Bool := decide (c.queue.length < c.capacity)

def send (c : Fifo ι α) (sender : ι) (item : α) : Fifo ι α :=
  { c with queue := c.queue ++ [(sender, item)] }

/-- The receiver takes what waits longest. -/
def receive (c : Fifo ι α) : Option (α × Fifo ι α) :=
  match c.queue with
  | [] => none
  | head :: rest => some (head.2, { c with queue := rest, taken := c.taken ++ [head] })

/-- Everything that was sent, in order. -/
def history (c : Fifo ι α) : List (ι × α) := c.taken ++ c.queue

/-- The queue is within the capacity. -/
def Bounded (c : Fifo ι α) : Prop := c.queue.length ≤ c.capacity

variable {c c' : Fifo ι α} {sender : ι} {item : α}

theorem history_send : (c.send sender item).history = c.history ++ [(sender, item)] :=
  (List.append_assoc ..).symm

theorem Bounded.send (hroom : c.hasRoom = true) : (c.send sender item).Bounded := by
  unfold Bounded Fifo.send
  rw [List.length_append]
  exact of_decide_eq_true hroom

/-- What a reception leaves: the item is the next of the history, and the
history is the same. -/
theorem receive_spec (h : c.receive = some (item, c')) :
    ∃ sender, c'.taken = c.taken ++ [(sender, item)] ∧ c'.history = c.history
      ∧ c'.capacity = c.capacity ∧ c'.queue.length + 1 = c.queue.length := by
  unfold receive at h
  cases hqueue : c.queue with
  | nil => simp [hqueue] at h
  | cons head rest =>
      simp only [hqueue, Option.some.injEq, Prod.mk.injEq] at h
      obtain ⟨rfl, rfl⟩ := h
      refine ⟨head.1, rfl, ?_, rfl, rfl⟩
      unfold history
      rw [hqueue, List.append_assoc]
      rfl

theorem Bounded.receive (hc : c.Bounded) (h : c.receive = some (item, c')) : c'.Bounded := by
  obtain ⟨-, -, -, hcapacity, hlength⟩ := receive_spec h
  unfold Bounded at hc ⊢
  omega

section Senders

variable [DecidableEq ι] {items : List (ι × α)} {other : ι}

/-- The items of one sender. -/
def ofSender (sender : ι) (items : List (ι × α)) : List α :=
  (items.filter fun sent => decide (sent.1 = sender)).map Prod.snd

theorem ofSender_append (items' : List (ι × α)) :
    ofSender sender (items ++ items') = ofSender sender items ++ ofSender sender items' := by
  unfold ofSender
  rw [List.filter_append, List.map_append]

theorem ofSender_send_self :
    ofSender sender (c.send sender item).history = ofSender sender c.history ++ [item] := by
  rw [history_send, ofSender_append]
  simp [ofSender]

theorem ofSender_send_of_ne (h : other ≠ sender) :
    ofSender other (c.send sender item).history = ofSender other c.history := by
  rw [history_send, ofSender_append]
  simp [ofSender, h.symm]

end Senders

end Fifo
