import CatalogSync.Pass.Pipeline
import CatalogSync.Schedule.Status

/-!
# The scheduler

A cycle runs every pipeline once, one after the other, in the order of their registration. A pass
that fails for its own window only is recorded and the cycle goes on; any other failure ends it.
Cycles follow each other with a pause between them until the shutdown is requested. The request is
looked at before every cycle and during the pauses, so a cycle that runs is always finished.
-/

namespace CatalogSync

/-- A pipeline as the scheduler sees it. -/
structure Job (ω : Type) where
  name : String
  streams : List String
  preCheck : Call PipelineError (Book ω) Unit
  /-- One pass. -/
  execute : Call PipelineError (Book ω) PassReport

/-- A pipeline that is bound to its source and to the store of its cursors. -/
def Pipeline.job {ω ρ : Type} (p : Pipeline ω ρ) (source : Source ω) (store : Store ω)
    (allowance : Nat) : Job ω :=
  ⟨p.name, p.streams, p.preCheck source, p.execute source store allowance⟩

/-- The time and the shutdown request as the world shows them. -/
structure Clock (ω : Type) where
  /-- Milliseconds. -/
  now : ω → Nat
  isCancelled : ω → Bool
  /-- Let time pass. The answer is `true` if the request came before the time was up. -/
  sleep : Span → ω → Bool × ω
  /-- Let all of the time pass, requests or not. -/
  pause : Span → ω → ω

/-- The pipelines of a process, and how far it has come. -/
structure Scheduler (ω : Type) where
  jobs : List (Job ω)
  book : Book ω
  registry : StatusRegistry
  /-- How many cycles were completed. -/
  cycles : Nat

namespace Scheduler

variable {ω φ : Type}

def ofBook (book : Book ω) : Scheduler ω := ⟨[], book, .empty, 0⟩

/-- Add a pipeline behind the others and make its streams known. -/
def register (s : Scheduler ω) (job : Job ω) : Scheduler ω :=
  { s with
    jobs := s.jobs ++ [job]
    book := s.book.register job.streams
    registry := s.registry.register job.name }

/-- A scheduler of some jobs that starts from what a store holds. -/
def start? (store : Store ω) (jobs : List (Job ω)) (world : ω) :
    Except StateError (Scheduler ω) := do
  .ok (jobs.foldl register (ofBook (← Book.open? store world)))

/-- The scheduler in a world that has changed. -/
def mapWorld (f : ω → ω) (s : Scheduler ω) : Scheduler ω :=
  { s with book := { s.book with world := f s.book.world } }

/-- A call on the book and the world of a scheduler. -/
def onBook {ε α : Type} (c : Call ε (Book ω) α) : Call ε (Scheduler ω) α :=
  c.within Scheduler.book fun book s => { s with book }

/-- Check a job until it passes or its attempts are used up. -/
def check [Growth φ] (clock : Clock ω) (p : Policy φ) (allowance : Nat) (job : Job ω) :
    Call SchedulerError (Book ω) Unit :=
  let pause (span : Span) (b : Book ω) : Book ω := { b with world := clock.pause span b.world }
  (p.retryPausing pause s!"pre-check {job.name}" allowance job.preCheck).mapError
    (.preCheck job.name)

/-- Check jobs in order, up to the first that fails. -/
def checkAll [Growth φ] (clock : Clock ω) (p : Policy φ) (allowance : Nat) :
    List (Job ω) → Call SchedulerError (Book ω) Unit
  | [] => pure ()
  | job :: rest => do
    check clock p allowance job
    checkAll clock p allowance rest

/-- Check that the source and the index of every pipeline are there, each with a fresh count of
attempts. -/
def preCheck [Growth φ] (clock : Clock ω) (p : Policy φ) (allowance : Nat) :
    Call SchedulerError (Scheduler ω) Unit :=
  fun s => onBook (checkAll clock p allowance s.jobs) s

/-- What is recorded of a pass that ended so. -/
def finishedPass (outcome : Except PipelineError PassReport) (started finished : Nat) :
    FinishedPass :=
  match outcome with
  | .ok report => ⟨.success, finished, finished - started, some report⟩
  | .error e => ⟨.failed e.message, finished, finished - started, none⟩

/-- Run one pass and record it. The report of a pass that only failed for itself is zero. -/
def runJob (clock : Clock ω) (job : Job ω) : Call SchedulerError (Scheduler ω) PassReport :=
  fun s =>
    let (outcome, book) := job.execute s.book
    let record (outcome : Except PipelineError PassReport) : Scheduler ω :=
      let pass := finishedPass outcome (clock.now s.book.world) (clock.now book.world)
      { s with book, registry := s.registry.record job.name pass }
    match outcome with
    | .ok report => (.ok report, record (.ok report))
    | .error e =>
      if e.abortsPassOnly then (.ok .zero, record (.error e))
      else (.error (.pipeline job.name e), record (.error e))
    | .unfinished => (.unfinished, { s with book })

/-- Run jobs in order, up to the first failure that is not confined to its pass. The answer is the
sum of the reports. -/
def runJobs (clock : Clock ω) : List (Job ω) → Call SchedulerError (Scheduler ω) PassReport
  | [] => pure .zero
  | job :: rest => do
    let report ← runJob clock job
    return report + (← runJobs clock rest)

/-- One cycle. -/
def runCycle (clock : Clock ω) : Call SchedulerError (Scheduler ω) PassReport := fun s =>
  match runJobs clock s.jobs s with
  | (.ok totals, s) => (.ok totals, { s with cycles := s.cycles + 1 })
  | ended => ended

/-- One cycle and the pause behind it. The answer comes when the shutdown was requested. -/
def turn (clock : Clock ω) (pause : Span) : Call SchedulerError (Scheduler ω) (Option Unit) :=
  fun s =>
    if clock.isCancelled s.book.world then (.ok (some ()), s)
    else
      match runCycle clock s with
      | (.ok _, s) =>
        if clock.isCancelled s.book.world then (.ok (some ()), s)
        else
          let (cancelled, world) := clock.sleep pause s.book.world
          (.ok (if cancelled then some () else none), { s with book := { s.book with world } })
      | (.error e, s) => (.error e, s)
      | (.unfinished, s) => (.unfinished, s)

/-- Run cycles until the shutdown is requested. -/
def run (clock : Clock ω) (pause : Span) (allowance : Nat) :
    Call SchedulerError (Scheduler ω) Unit :=
  (turn clock pause).untilSome allowance

end Scheduler

end CatalogSync
