import BaseEngine.EngineFailures
import BaseEngine.LedgerRefinement

/-!
# What ends the engine on its database

With a database the engine has more ways to fail. `persist_observed_log` comes
before the log is applied, and `persist_decision_run` before anything is
submitted; both serialise first, and `serde_json::to_value` refuses integers that
do not fit 64 bits, as reserves and amounts may not. `ledger_fails_iff` says of
every run when that happens: the engine fails exactly on a log that the
serialiser or the database does not take, on one that the book cannot carry out,
or on one after which something is decided that is not taken
(`Runtime.FailsOn`). Without a database only the second is left.
-/

namespace BaseEngine

open Fallible

section Statements

variable {serde : Serde} {sha256 : List UInt8 → String} {replies : Ledger.Replies}

theorem gate_write {connected : Bool} (hconnected : connected = true) (write : Write) :
    Gate (fun _ => True) (connected = true → replies.Takes serde write)
      (replies.write serde write) := by
  rw [← Ledger.Replies.write_eq_ok_iff]
  cases replies.write serde write with
  | ok _ => exact .passes trivial fun _ => rfl
  | error e => exact .refuses fun h => (nomatch h hconnected)

/-- Every statement fails on what the serialiser or the database does not take,
and on nothing else. -/
theorem ledger_gated (serde : Serde) (replies : Ledger.Replies) (connected : Bool) :
    (replies.statements serde).Gated (fun pool => pool.isSome = connected)
      (fun i pool => Newest i pool ∧ pool.isSome = connected)
      (fun write => connected = true → replies.Takes serde write) where
  run := by
    rintro (_ | db) record hpool
    · exact .passes hpool fun hconnected => absurd (hpool.trans hconnected) Bool.false_ne_true
    · rw [persistDecisionRun_eq]
      exact (gate_write hpool.symm _).map hpool
  attempt := by
    rintro (_ | db) runId attempt request hpool
    · exact .passes ⟨.none, hpool⟩ fun hconnected =>
        absurd (hpool.trans hconnected) Bool.false_ne_true
    · rw [persistExecutionAttempt_eq]
      exact (gate_write hpool.symm _).map ⟨.some, hpool⟩
  update := by
    rintro pool i update ⟨hnewest, hpool⟩
    cases hnewest with
    | none =>
        exact ⟨⟨.none, hpool⟩, .passes trivial fun hconnected =>
          absurd (hpool.trans hconnected) Bool.false_ne_true⟩
    | some =>
        rw [onRow_newest]
        refine ⟨?_, gate_write hpool.symm _⟩
        dsimp only
        split_ifs
        · exact ⟨.some, hpool⟩
        · exact ⟨.some, hpool⟩
  valid := fun h => h.2

/-- A log that is written changes no attempt. -/
theorem exposure_of_observe {pool storage : Option Database} {call : PersistCall}
    {observedLogId : Option Nat}
    (h : Database.observe serde sha256 pool call = .ok (storage, observedLogId)) (now : Nat)
    (reply : Except ErrorChain Unit) :
    storage.isSome = pool.isSome
      ∧ Database.todaysSubmittableNotionalWei storage now reply
        = Database.todaysSubmittableNotionalWei pool now reply := by
  cases rel_of_observe h with
  | none => exact ⟨rfl, rfl⟩
  | some hsame =>
      obtain ⟨_, rfl⟩ := hsame
      exact ⟨rfl, rfl⟩

end Statements

/-! ## Runs -/

/-- The preconditions of a turn: the exposure of the day is read and below
`2 ^ 127`, the clocks answer with a time below `2 ^ 63`, and the node with hashes
and receipts that fit (`Outside.Serving`); ctrl-c can be listened for. Nothing is
said of the serialiser, and nothing of the replies to what is written. -/
structure LedgerServed (s : LedgerEngine) (signal : LedgerSignal) : Prop where
  outside : ∀ arrival log, signal = .event arrival → arrival.event = .log log →
    arrival.replies.toOutside.Serving
  exposed : ∀ arrival log, signal = .event arrival → arrival.event = .log log →
    ∃ current < 2 ^ 127, Database.todaysSubmittableNotionalWei s.storage
      arrival.replies.exposureAt arrival.replies.loadExposure = .ok current
  listening : ∀ e, signal.exit? ≠ some (.error e)

/-- The log is not taken, the book cannot carry it out, or something that is
decided after it is not taken. -/
def Runtime.FailsOn (rt : Runtime) (serde : Serde) (s : LedgerEngine) (arrival : LedgerArrival)
    (log : Log) : Prop :=
  s.storage.isSome = true ∧ ¬ (arrival.call log).Accepted serde.toValue
    ∨ ¬ PoolBook.LogApplicable rt.u256FromDecimal s.book log
    ∨ s.storage.isSome = true ∧ ∃ write ∈ rt.writes (ledgerBackend serde rt.sha256) s arrival log,
      ¬ arrival.replies.Takes serde write

section Runs

variable {rt : Runtime} {serde : Serde} {s : LedgerEngine} {signal : LedgerSignal}
  {arrival : LedgerArrival} {log : Log}

theorem breaks_iff_failsOn :
    rt.Breaks (ledgerBackend serde rt.sha256) s arrival log
        (fun write => s.storage.isSome = true → arrival.replies.Takes serde write)
      ↔ rt.FailsOn serde s arrival log := by
  unfold Runtime.Breaks Runtime.FailsOn
  have hrefused : (∃ write ∈ rt.writes (ledgerBackend serde rt.sha256) s arrival log,
        ¬ (s.storage.isSome = true → arrival.replies.Takes serde write))
      ↔ s.storage.isSome = true
        ∧ ∃ write ∈ rt.writes (ledgerBackend serde rt.sha256) s arrival log,
          ¬ arrival.replies.Takes serde write := by
    constructor
    · rintro ⟨write, hmem, hnot⟩
      obtain ⟨hconnected, hnot⟩ := Classical.not_imp.mp hnot
      exact ⟨hconnected, write, hmem, hnot⟩
    · rintro ⟨hconnected, write, hmem, hnot⟩
      exact ⟨write, hmem, fun h => hnot (h hconnected)⟩
  exact or_congr observe_error_iff (or_congr Iff.rfl hrefused)

theorem LedgerServed.serves (h : LedgerServed s signal) (hsignal : signal = .event arrival)
    (hevent : arrival.event = .log log) :
    (ledgerBackend serde rt.sha256).Serves s arrival log
      (fun write => s.storage.isSome = true → arrival.replies.Takes serde write) := by
  refine ⟨h.outside arrival log hsignal hevent, fun hpersist => ?_, _, _,
    ledger_gated serde arrival.replies s.storage.isSome, fun hpersist => ?_⟩
  · obtain ⟨current, hcurrent, hread⟩ := h.exposed arrival log hsignal hevent
    exact ⟨current, hcurrent, (exposure_of_observe hpersist _ _).2.trans hread⟩
  · exact (exposure_of_observe hpersist 0 (.ok ())).1

/-- **What ends the engine on its database.** With a ready configuration, book
addresses of 20 bytes and turns that are served, a run fails exactly when it
comes to a log that it fails on at that moment. -/
theorem ledger_fails_iff (hready : rt.Ready) {book : PoolBook} {pool : Option Database}
    {signals : List LedgerSignal} (haddressed : book.Addressed)
    (hruns : Run.Along (rt.stepRecorded serde)
      (fun s signal => Listed rt (ledgerBackend serde rt.sha256) s signal ∧ LedgerServed s signal)
      (Engine.start book pool) signals) :
    (Run.final (rt.stepRecorded serde) (Engine.start book pool) signals).Failed
      ↔ ∃ pre arrival post log, signals = pre ++ .event arrival :: post
        ∧ (Run.final (rt.stepRecorded serde) (Engine.start book pool) pre).exit = none
        ∧ arrival.event = .log log
        ∧ rt.FailsOn serde (Run.final (rt.stepRecorded serde) (Engine.start book pool) pre)
            arrival log := by
  have hserved : Run.Along (rt.stepRecorded serde)
      (fun s signal => Listed rt (ledgerBackend serde rt.sha256) s signal
        ∧ (∀ e, signal.exit? ≠ some (.error e))
        ∧ ∀ arrival log, signal = .event arrival →
          (ledgerBackend serde rt.sha256).event arrival = .log log →
          (ledgerBackend serde rt.sha256).Serves s arrival log
            (fun write => s.storage.isSome = true → arrival.replies.Takes serde write))
      (Engine.start book pool) signals :=
    Run.along_mono (fun s signal h => ⟨h.1, h.2.listening, fun _ _ => h.2.serves⟩) hruns
  have hfails := @fails_iff _ _ rt _ hready book pool signals haddressed
    (fun s arrival write => s.storage.isSome = true → arrival.replies.Takes serde write) hserved
  simp only [breaks_iff_failsOn] at hfails
  exact hfails

end Runs

/-! A `Sync` that the book can carry out, with a reserve above `u64::MAX`. -/

def wideSync : Log := PoolBook.syncLogOf pool1 (2 ^ 64) 2500000000 1 false

def wideArrival : LedgerArrival :=
  { sampleLedgerArrival with
    event := .log wideSync
    pools := [{ profitableLoop.firstPool with reserve0 := 2 ^ 64, lastUpdatedBlock := some 123 },
      profitableLoop.secondPool] }

theorem wideSync_served :
    Run.Along (sampleRuntime.stepRecorded sampleSerde)
      (fun s signal =>
        Listed sampleRuntime (ledgerBackend sampleSerde sampleRuntime.sha256) s signal
          ∧ LedgerServed s signal)
      (Engine.start sampleBook (some emptyDatabase)) [.event wideArrival] := by
  refine ⟨⟨?_, ?_, ?_, nofun⟩, trivial⟩
  · intro arrival log hsignal hevent
    cases hsignal
    cases hevent
    decide +kernel
  · intro arrival log hsignal _
    cases hsignal
    exact obligingAnswers_serving
  · intro arrival log hsignal _
    cases hsignal
    exact ⟨0, by norm_num, rfl⟩

theorem wideSync_unserialised :
    ¬ (wideArrival.call wideSync).Accepted sampleSerde.toValue := by
  rintro ⟨⟨logJson, hjson⟩, -, -⟩
  have herror : sampleSerde.toValue (wideArrival.call wideSync).log.json
      = .error ["number out of range"] := rfl
  rw [herror] at hjson
  cases hjson

theorem wideSync_fails :
    (sampleBook.applyLog sampleRuntime.u256FromDecimal wideSync).2.isOk = true
      ∧ (Run.final (sampleRuntime.stepRecorded sampleSerde)
          (Engine.start sampleBook (some emptyDatabase)) [.event wideArrival]).Failed := by
  refine ⟨by decide +kernel, ?_⟩
  rw [ledger_fails_iff sampleRuntime_ready sampleBook_addressed wideSync_served]
  refine ⟨[], wideArrival, [], wideSync, rfl, rfl, rfl, ?_⟩
  exact .inl ⟨rfl, wideSync_unserialised⟩

end BaseEngine
