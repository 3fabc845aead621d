import BaseEngine.Ledger

/-!
# The row of an attempt

Every statement is a check, which may fail and then nothing has happened, and a
change of the tables. `Ledger.Replies.write` is the check: the serialiser has to
take the documents, the gas estimate has to fit, and the driver has to reply
(`write_eq_ok_iff`). The change of an update is one to the newest row of
`execution_attempts`, since an attempt has one row and is driven right after it
was inserted (`updateAttempt_newest`).

So what an attempt leaves in the database is its row with the updates of its
course (`Writes.row_after`).
-/

namespace BaseEngine

open Fallible

/-! ## What is written -/

/-- The documents of a write, in the order in which they are serialised. -/
def Write.documents : Write → List Document
  | .decisionRun record =>
      [.executionRequest record.executionRequest, .opportunity record.opportunity,
        .simulation record.simulation, .risk record.risk]
  | .attempt built request => [.attempt built, .executionRequest (some request)]
  | .update (.submitted built) => [.attempt built]
  | .update (.finalized final receipt outcome) =>
      [.attempt final, .receipt receipt, .outcome outcome]
  | .update (.finalizedWithoutReceipt final outcome) => [.attempt final, .outcome outcome]
  | .update (.failed _ _) => []

/-- The gas estimate of a decision run has a `BIGINT` column. -/
def Write.fits : Write → Bool
  | .decisionRun record => decide (record.simulation.gasEstimate < 2 ^ 63)
  | _ => true

namespace Ledger.Replies

/-- The driver's reply to a write. -/
def reply (replies : Replies) : Write → Except ErrorChain Unit
  | .decisionRun _ => replies.persistDecisionRun
  | .attempt _ _ => replies.persistAttempt
  | .update (.submitted _) => replies.updateAttempt
  | .update _ => replies.recordResult

/-- What a statement checks before it changes anything. -/
def write (serde : Serde) (replies : Replies) : Write → Except ErrorChain Unit
  | .decisionRun record => sendDecisionRun serde replies.persistDecisionRun record
  | .attempt attempt request => sendExecutionAttempt serde replies.persistAttempt attempt request
  | .update (.submitted attempt) => sendSubmitted serde replies.updateAttempt attempt
  | .update (.finalized attempt receipt outcome) =>
      sendFinalized serde replies.recordResult attempt receipt outcome
  | .update (.finalizedWithoutReceipt attempt outcome) =>
      sendFinalizedWithoutReceipt serde replies.recordResult attempt outcome
  | .update (.failed _ _) => sendError replies.recordResult

end Ledger.Replies

/-- The serialiser takes every document of the write, its numbers fit, and the
database replies. -/
structure Ledger.Replies.Takes (serde : Serde) (replies : Ledger.Replies) (write : Write) :
    Prop where
  documents : ∀ document ∈ write.documents, serde.document document = .ok ()
  fits : write.fits = true
  reply : replies.reply write = .ok ()

theorem check_eq_ok_iff {context : String} {check : Except ErrorChain Unit}
    {rest : Except ErrorChain Unit} :
    (withContext context check >>= fun _ => rest) = .ok () ↔ check = .ok () ∧ rest = .ok () := by
  cases check with
  | ok _ => exact ⟨fun h => ⟨rfl, h⟩, fun h => h.2⟩
  | error e => exact ⟨fun h => (nomatch h), fun h => (nomatch h.1)⟩

theorem withContext_eq_ok_iff {context : String} {check : Except ErrorChain Unit} :
    withContext context check = .ok () ↔ check = .ok () := mapError_eq_ok_iff

/-- **What it takes to write.** -/
theorem Ledger.Replies.write_eq_ok_iff {serde : Serde} {replies : Ledger.Replies}
    {write : Write} : replies.write serde write = .ok () ↔ replies.Takes serde write := by
  have htakes : replies.Takes serde write ↔ (∀ document ∈ write.documents,
      serde.document document = .ok ()) ∧ write.fits = true ∧ replies.reply write = .ok () :=
    ⟨fun h => ⟨h.documents, h.fits, h.reply⟩, fun h => ⟨h.1, h.2.1, h.2.2⟩⟩
  have hnone : (∀ document ∈ ([] : List Document), serde.document document = .ok ()) ↔ True :=
    iff_true_intro (List.forall_mem_nil _)
  rw [htakes]
  unfold Ledger.Replies.write
  cases write with
  | decisionRun record =>
      have hgas : (if 2 ^ 63 ≤ record.simulation.gasEstimate then
            .error ["gas estimate does not fit into i64",
              "out of range integral type conversion attempted"]
          else withContext "failed to persist decision run" replies.persistDecisionRun)
          = (.ok () : Except ErrorChain Unit)
          ↔ record.simulation.gasEstimate < 2 ^ 63 ∧ replies.persistDecisionRun = .ok () := by
        split_ifs with hlarge
        · exact ⟨fun h => (nomatch h), fun h => absurd h.1 (Nat.not_lt.mpr hlarge)⟩
        · rw [withContext_eq_ok_iff, and_iff_right (Nat.not_le.mp hlarge)]
      simp only [sendDecisionRun, check_eq_ok_iff, hgas, Write.documents, Write.fits, reply,
        List.forall_mem_cons, hnone, and_true, and_assoc, decide_eq_true_eq]
  | attempt attempt request =>
      simp only [sendExecutionAttempt, check_eq_ok_iff, withContext_eq_ok_iff, Write.documents,
        Write.fits, reply, List.forall_mem_cons, hnone, and_true, true_and,
        and_assoc]
  | update update =>
      cases update with
      | submitted attempt =>
          simp only [sendSubmitted, check_eq_ok_iff, withContext_eq_ok_iff, Write.documents,
            Write.fits, reply, List.forall_mem_cons, hnone, and_true, true_and]
      | finalized attempt receipt outcome =>
          simp only [sendFinalized, check_eq_ok_iff, withContext_eq_ok_iff, Write.documents,
            Write.fits, reply, List.forall_mem_cons, hnone, and_true, true_and,
            and_assoc]
      | finalizedWithoutReceipt attempt outcome =>
          simp only [sendFinalizedWithoutReceipt, check_eq_ok_iff, withContext_eq_ok_iff,
            Write.documents, Write.fits, reply, List.forall_mem_cons, hnone,
            and_true, true_and, and_assoc]
      | failed stage message =>
          simp only [sendError, withContext_eq_ok_iff, Write.documents, Write.fits, reply,
            hnone, true_and]

/-! ## The change of the tables -/

/-- The database with one attempt more. -/
def Database.withAttempt (db : Database) (row : ExecutionAttemptRow) : Database :=
  { db with executionAttempts := (db.executionAttempts.insert row).1 }

/-- The database with one decision run more. -/
def Database.withRun (db : Database) (row : DecisionRunRow) : Database :=
  { db with decisionRuns := (db.decisionRuns.insert row).1 }

/-- The row after an update. -/
def ExecutionAttemptRow.updated (replies : Ledger.Replies) (row : ExecutionAttemptRow) :
    AttemptUpdate → ExecutionAttemptRow
  | .submitted attempt => row.submitted replies.submittedAt attempt
  | .finalized attempt receipt outcome =>
      row.finalized replies.finalizedAt attempt receipt outcome
  | .finalizedWithoutReceipt attempt outcome =>
      row.finalizedWithoutReceipt replies.finalizedAt attempt outcome
  | .failed stage message => row.failed stage message

/-- The row after the updates of a course. -/
def ExecutionAttemptRow.after (replies : Ledger.Replies) (row : ExecutionAttemptRow)
    (updates : List AttemptUpdate) : ExecutionAttemptRow :=
  updates.foldl (ExecutionAttemptRow.updated replies) row

section Statements

variable {serde : Serde} {replies : Ledger.Replies} {db : Database} {row : ExecutionAttemptRow}

theorem persistDecisionRun_eq (record : DecisionRunRecord) :
    (replies.statements serde).persistDecisionRun record (some db)
      = (replies.write serde (.decisionRun record)).map fun _ =>
        (some (db.withRun (record.row replies.runInsertedAt)), some db.decisionRuns.nextId) :=
  bind_ok_eq_map _ _

theorem persistExecutionAttempt_eq (runId : Option Nat) (attempt : ExecutionAttempt)
    (request : ExecutionRequest) :
    (replies.statements serde).persistExecutionAttempt runId attempt request (some db)
      = (replies.write serde (.attempt attempt request)).map fun _ =>
        (some (db.withAttempt (.inserted replies.insertedAt runId attempt request)),
          some db.executionAttempts.nextId) :=
  bind_ok_eq_map _ _

/-- The row is there, so that the error for a missing one does not occur. -/
theorem changeAttempt_newest (missing : String)
    (change : ExecutionAttemptRow → ExecutionAttemptRow) :
    (db.withAttempt row).updateAttempt db.executionAttempts.nextId missing change
      = .ok (some (db.withAttempt (change row))) := by
  unfold Database.updateAttempt Database.withAttempt
  dsimp only
  rw [Table.update_insert]
  rfl

/-- **An update changes the newest row and no other.** -/
theorem updateAttempt_newest (update : AttemptUpdate) :
    (replies.statements serde).updateAttempt db.executionAttempts.nextId update
        (some (db.withAttempt row))
      = (replies.write serde (.update update)).map fun _ =>
        some (db.withAttempt (row.updated replies update)) := by
  rw [← bind_ok_eq_map]
  unfold Ledger.Replies.statements Ledger.Replies.write ExecutionAttemptRow.updated
  cases update with
  | submitted attempt =>
      simp only [Database.markExecutionSubmitted, changeAttempt_newest]
  | finalized attempt receipt outcome =>
      simp only [Database.finalizeExecutionAttempt, changeAttempt_newest]
  | finalizedWithoutReceipt attempt outcome =>
      simp only [Database.finalizeExecutionAttemptWithoutReceipt, changeAttempt_newest]
  | failed stage message =>
      simp only [Database.recordExecutionAttemptError, changeAttempt_newest]

/-- The identifier of the newest attempt; without a database there is none. -/
inductive Newest : Option Nat → Option Database → Prop
  | none : Newest none none
  | some {db : Database} {row : ExecutionAttemptRow} :
      Newest (some db.executionAttempts.nextId) (some (db.withAttempt row))

/-- A write that is refused leaves the newest row alone. -/
theorem onRow_newest (update : AttemptUpdate) :
    (replies.statements serde).onRow (some db.executionAttempts.nextId) update
        (some (db.withAttempt row))
      = ((if replies.write serde (.update update) = .ok () then
          some (db.withAttempt (row.updated replies update)) else some (db.withAttempt row)),
        replies.write serde (.update update)) := by
  unfold Statements.onRow
  dsimp only
  rw [updateAttempt_newest]
  cases replies.write serde (.update update) with
  | ok _ => rfl
  | error e => rfl

/-- The updates that went through have changed the newest row. -/
theorem Statements.Writes.row_after {updates : List AttemptUpdate} {pool : Option Database}
    (h : (replies.statements serde).Writes (some db.executionAttempts.nextId) updates
      (some (db.withAttempt row)) pool) :
    pool = some (db.withAttempt (row.after replies updates)) := by
  obtain ⟨start, hstart⟩ : ∃ start, start = some (db.withAttempt row) := ⟨_, rfl⟩
  rw [← hstart] at h
  induction h generalizing row with
  | nil => exact hstart
  | @cons update updates storage storage' storage'' hupdate hrest ih =>
      subst hstart
      rw [onRow_newest] at hupdate
      obtain ⟨hstorage, hok⟩ := Prod.mk.inj hupdate
      rw [if_pos hok] at hstorage
      exact ih hstorage.symm

end Statements

end BaseEngine
