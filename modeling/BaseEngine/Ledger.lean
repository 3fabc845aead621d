import BaseEngine.Database
import BaseEngine.Engine

/-!
# The engine on its database

The loop of `BaseEngine.Engine` with every statement it makes: `handle_event`
observes a log before it is applied, `maybe_log_decision_output` inserts a
decision run and an attempt, and `drive_execution_attempt` writes to the
attempt's row how far it has come. The handlers are those of
`BaseEngine.Pipeline`; what is given here is the storage they run on
(`Ledger.Replies.statements`, `ledgerBackend`).
-/

namespace BaseEngine

open Fallible

namespace Ledger

/-- What the outside world answers while one output is handled: the driver's
replies to single statements, and the times of the database at which it writes
the decision run and the later updates of the attempt. -/
structure Replies extends Outside where
  loadExposure : Except ErrorChain Unit
  persistDecisionRun : Except ErrorChain Unit
  persistAttempt : Except ErrorChain Unit
  updateAttempt : Except ErrorChain Unit
  recordResult : Except ErrorChain Unit
  runInsertedAt : Nat
  submittedAt : Nat
  finalizedAt : Nat

def Replies.statements (serde : Serde) (replies : Replies) : Statements (Option Database) where
  todaysSubmittableNotionalWei pool :=
    Database.todaysSubmittableNotionalWei pool replies.exposureAt replies.loadExposure
  persistDecisionRun record pool :=
    Database.persistDecisionRun serde pool replies.runInsertedAt replies.persistDecisionRun record
  persistExecutionAttempt decisionRunId attempt request pool :=
    Database.persistExecutionAttempt serde pool replies.insertedAt replies.persistAttempt
      decisionRunId attempt request
  updateAttempt id update pool :=
    match update with
    | .submitted attempt =>
        Database.markExecutionSubmitted serde pool replies.submittedAt replies.updateAttempt id
          attempt
    | .finalized attempt receipt outcome =>
        Database.finalizeExecutionAttempt serde pool replies.finalizedAt replies.recordResult id
          attempt receipt outcome
    | .finalizedWithoutReceipt attempt outcome =>
        Database.finalizeExecutionAttemptWithoutReceipt serde pool replies.finalizedAt
          replies.recordResult id attempt outcome
    | .failed stage message =>
        Database.recordExecutionAttemptError pool replies.recordResult id stage message

end Ledger

/-- An event with the replies while it is handled; `observedAt` is the
database's time when the log is written. -/
structure LedgerArrival where
  event : Ingest.Event
  observedAt : Nat
  logReply : Except ErrorChain Unit
  pools : List V2PoolState
  replies : Ledger.Replies

def LedgerArrival.call (arrival : LedgerArrival) (log : Log) : PersistCall :=
  { now := arrival.observedAt, answer := arrival.logReply, log }

abbrev LedgerSignal := Signal LedgerArrival

/-- The state of the loop with its database. -/
abbrev LedgerEngine := Engine (Option Database)

def ledgerBackend (serde : Serde) (sha256 : List UInt8 → String) :
    Backend LedgerArrival (Option Database) where
  event := LedgerArrival.event
  pools := LedgerArrival.pools
  outside arrival := arrival.replies.toOutside
  persistObservedLog arrival log pool := Database.observe serde sha256 pool (arrival.call log)
  statements arrival := arrival.replies.statements serde

abbrev Runtime.stepRecorded (serde : Serde) (rt : Runtime) :
    LedgerEngine → LedgerSignal → LedgerEngine :=
  rt.stepWith (ledgerBackend serde rt.sha256)

end BaseEngine
