import BaseEngine.EngineRuns

/-!
# The daily limit across restarts

A restart rebuilds the risk engine from nothing, so that the ledger of the
risk engine forgets the day. The rows of `execution_attempts` survive. A
deployment is the running engine together with its configuration; it receives
signals and is restarted, perhaps with another configuration, and perhaps while
a decision is being handled, when a row may be there for an attempt that was
never handed over.

`canaryDaily_across_restarts`: as long as every configuration is for canary
mode with one limit and a database, what all the processes together hand to the
transport stays within the limit on every UTC day, by the day on which the
database wrote the row of an attempt. Its transaction may go out after midnight;
when none does, the same holds by the day of the hand-over.
-/

namespace BaseEngine

open Fallible Machine Text

structure Deployment where
  rt : Runtime
  engine : Engine Storage

/-- A signal to the running process; or its end and a new one, which loads its
own book. -/
inductive Occurrence where
  | signal (signal : Signal Arrival)
  | restart (rt : Runtime) (book : PoolBook) (unfinished : Option AttemptRow)

namespace Deployment

def boot (rt : Runtime) (book : PoolBook) (rows : List AttemptRow) : Deployment :=
  { rt, engine := Engine.start book (rt.config.storage.connect rows) }

/-- The rows that are left in the database. -/
def rows (d : Deployment) (unfinished : Option AttemptRow) : List AttemptRow :=
  d.engine.storage.getD [] ++ unfinished.toList

def step (d : Deployment) : Occurrence → Deployment
  | .signal signal => { d with engine := d.rt.step d.engine signal }
  | .restart rt book unfinished =>
      let fresh := boot rt book (d.rows unfinished)
      { fresh with engine := { fresh.engine with handed := d.engine.handed } }

end Deployment

/-- Canary mode with a daily limit and a database. -/
structure Runtime.Capped (limit : Nat) (rt : Runtime) : Prop where
  mode : rt.config.execution.mode = .canary
  limit : rt.config.execution.canaryMaxDailyWei.bind (parseUnsigned 10 128) = some limit
  database : rt.config.storage.databaseUrl.isSome = true

def Occurrence.Capped (limit : Nat) : Occurrence → Prop
  | .signal _ => True
  | .restart rt _ _ => rt.Capped limit

/-- What was handed over is in the rows, and within the limit. -/
def Engine.Accounted (limit : Nat) (s : Engine Storage) : Prop :=
  CanaryRun.Stored limit s.storage s.handed

variable {limit : Nat} {rt : Runtime} {s s' : Engine Storage} {signal : Signal Arrival}

theorem StorageConfig.connect_of_database {config : StorageConfig} (rows : List AttemptRow)
    (h : config.databaseUrl.isSome = true) : config.connect rows = some rows := by
  unfold StorageConfig.connect
  rw [if_pos h]

/-- **Step lemma**, for a turn of the loop. -/
theorem Turn.accounted (h : Turn rt s signal s') (hcapped : rt.Capped limit)
    (hs : s.Accounted limit) : s'.Accounted limit := by
  cases h with
  | stopped _ => exact hs
  | passes _ _ _ => exact hs
  | leaves _ _ => exact hs
  | unpersisted _ _ _ => exact hs
  | inapplicable _ _ _ _ => exact hs
  | @settles arrival log book outcome _ _ _ _ =>
      -- the same rows and submissions as in a run of outputs
      exact @CanaryRun.stored_step rt.sha256 rt.codec rt.config rt.policy
        { risk := { RiskRun.start with state := s.risk }, storage := s.storage,
          submitted := s.handed }
        limit hcapped.mode hcapped.limit hs (arrival.answers, rt.decision arrival log outcome)

/-- A process that starts finds everything in the rows. -/
theorem accounted_restart {d : Deployment} (hs : d.engine.Accounted limit)
    (hcapped : rt.Capped limit) (book : PoolBook) (unfinished : Option AttemptRow) :
    (d.step (.restart rt book unfinished)).engine.Accounted limit := by
  have hconnect := StorageConfig.connect_of_database (d.rows unfinished) hcapped.database
  have hrows : CanaryRun.Stored limit (some (d.rows unfinished)) d.engine.handed := by
    obtain ⟨rows, hrows, hdays⟩ := id hs
    have hold : d.rows none = rows := by
      unfold Deployment.rows
      rw [hrows]
      exact List.append_nil rows
    cases unfinished with
    | none => exact ⟨d.rows none, rfl, hold ▸ hdays⟩
    | some row =>
        have hrow := hs.append_row row
        rw [hrows] at hrow
        unfold Deployment.rows
        rw [hrows]
        exact hrow
  unfold Engine.Accounted
  rw [← hconnect] at hrows
  exact hrows

/-- **The daily limit across restarts.** However often the engine of canary
mode is stopped or killed and started again on its database, the attempts that it
hands to the transport with a row of one UTC day come to at most the limit. As
long as midnight never falls between the row and the hand-over, so do those that
are handed over on one UTC day. -/
theorem canaryDaily_across_restarts {book : PoolBook} {rows : List AttemptRow}
    {occurrences : List Occurrence} (hboot : rt.Capped limit)
    (hcapped : ∀ occurrence ∈ occurrences, occurrence.Capped limit) :
    (∀ day, dayTotal Handover.insertedAt day
        (Run.final Deployment.step (Deployment.boot rt book rows) occurrences).engine.handed
      ≤ limit)
      ∧ ((∀ handover ∈ (Run.final Deployment.step (Deployment.boot rt book rows)
            occurrences).engine.handed,
          handover.insertedAt / secondsPerDay = handover.handedAt / secondsPerDay) →
        ∀ day, dayTotal Handover.handedAt day
          (Run.final Deployment.step (Deployment.boot rt book rows) occurrences).engine.handed
            ≤ limit) := by
  have hstep : ∀ (d : Deployment) (occurrence : Occurrence),
      d.rt.Capped limit ∧ d.engine.Accounted limit → occurrence.Capped limit →
      (d.step occurrence).rt.Capped limit ∧ (d.step occurrence).engine.Accounted limit := by
    rintro d occurrence ⟨hrt, hengine⟩ hocc
    cases occurrence with
    | signal signal => exact ⟨hrt, (turn_step d.rt d.engine signal).accounted hrt hengine⟩
    | restart rt' book' unfinished =>
        exact ⟨hocc, accounted_restart hengine hocc book' unfinished⟩
  have hstart : (Deployment.boot rt book rows).engine.Accounted limit :=
    ⟨rows, StorageConfig.connect_of_database rows hboot.database,
      fun _ => ⟨Nat.zero_le _, Nat.zero_le _⟩⟩
  obtain ⟨-, _, -, hdays⟩ := Run.inv_final hstep ⟨hboot, hstart⟩ (Run.along_of_forall hcapped)
  refine ⟨fun day => (hdays day).2, fun hsame day => ?_⟩
  rw [← dayTotal_congr hsame]
  exact (hdays day).2

/-- The sample engine with a database. -/
def storedRuntime : Runtime :=
  { sampleRuntime with
    config := { sampleRuntime.config with storage := { databaseUrl := some "postgres://db" } } }

theorem storedRuntime_capped : storedRuntime.Capped 1500000 where
  mode := rfl
  limit := by decide
  database := rfl

/-- The sample loop before and after a restart. -/
theorem restartedLoop_within_limit :
    dayTotal Handover.insertedAt 19675
      (Run.final Deployment.step (Deployment.boot storedRuntime sampleBook [])
        [.signal (.event sampleArrival), .restart storedRuntime sampleBook none,
          .signal (.event sampleArrival)]).engine.handed ≤ 1500000 := by
  refine (canaryDaily_across_restarts storedRuntime_capped fun occurrence hmem => ?_).1 19675
  rcases List.mem_cons.mp hmem with rfl | hmem
  · trivial
  · rcases List.mem_cons.mp hmem with rfl | hmem
    · exact storedRuntime_capped
    · obtain rfl := List.mem_singleton.mp hmem
      trivial

end BaseEngine
