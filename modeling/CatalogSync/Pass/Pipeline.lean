import CatalogSync.Extract.Worker
import CatalogSync.Load.Basic
import CatalogSync.Pass.Report
import CatalogSync.Retry.Run
import CatalogSync.Store.Book

/-!
# Pipelines

A pipeline carries the changes of some streams into one index. A pass runs its workers one after
the other, those over related tables first. What a worker yields is transformed, collected into
batches and loaded; its cursor is committed once every one of its batches has been accepted in
full. A failure ends the pass, and the cursors of the failed worker and of those behind it stay
where they were.
-/

namespace CatalogSync

/-- A pipeline whose source, loader and store live in a world `ω`. -/
structure Pipeline (ω ρ : Type) where
  name : String
  aggregate : Aggregate
  /-- In the order of a pass. -/
  workers : List WorkerSpec
  decode : Decoder ρ
  transform : ρ → Except PipelineError Document
  loader : Loader ω
  /-- How many rows a worker asks for at once. -/
  pageSize : Nat

/-- Workers over related tables first, otherwise as they were given. -/
def WorkerSpec.inOrder (workers : List WorkerSpec) : List WorkerSpec :=
  workers.filter WorkerSpec.isRelated ++ workers.filter (!·.isRelated)

namespace Pipeline

variable {ω ρ : Type} (p : Pipeline ω ρ)

/-- The streams that the pipeline moves, in the order of a pass. -/
def streams : List String := p.workers.map WorkerSpec.stream

/-- The cursor of the root stream, by which the scans of related tables are bounded. -/
def rootCursor (b : CursorMap) : Option Cursor :=
  (p.workers.find? (!·.isRelated)).map fun root => b.position root.stream

/-- A worker of the pipeline, standing where the book says. -/
def workerOf (spec : WorkerSpec) (b : CursorMap) : Worker :=
  .ofSpec spec p.aggregate (b.position spec.stream)
    (if spec.isRelated then p.rootCursor b else none) p.pageSize

/-- A worker between two of its pages. -/
structure Progress (ω : Type) where
  extraction : Extraction ω
  buffer : BatchBuffer
  report : PassReport

namespace Progress

def world (s : Progress ω) : ω := s.extraction.world

/-- Ask the outside world. -/
def outside {ε α : Type} (asPipelineError : ε → PipelineError) (c : Call ε ω α) :
    Call PipelineError (Progress ω) α :=
  (c.mapError asPipelineError).within world fun world s =>
    { s with extraction := { s.extraction with world } }

/-- Change the numbers of the pass. -/
def count (f : PassReport → PassReport) : Call PipelineError (Progress ω) Unit := fun s =>
  (.ok (), { s with report := f s.report })

end Progress

open Progress

/-- Write a batch. It counts as a batch once it is answered, and its documents count once all of
them are accepted. -/
def load (stream : String) (batch : Batch) : Call PipelineError (Progress ω) Unit := do
  let result ← outside .load (p.loader.write batch)
  count fun r => { r with batches := r.batches + 1 }
  if result.IsVerified then count fun r => { r with loaded := r.loaded + result.accepted }
  else Call.fail (.verification p.name stream result.sent result.accepted)

/-- Write what was taken out of the buffer, if anything was. -/
def loadSome (stream : String) : Option Batch → Call PipelineError (Progress ω) Unit
  | some batch => p.load stream batch
  | none => pure ()

/-- Put a document into the buffer. -/
def push (d : Document) : Call PipelineError (Progress ω) (Option Batch) := fun s =>
  let (pushed, buffer) := s.buffer.push d
  ((Outcome.ofExcept pushed).mapError .load, { s with buffer })

/-- Empty the buffer. -/
def flush : Call PipelineError (Progress ω) (Option Batch) := fun s =>
  let (batch, buffer) := s.buffer.flush
  (.ok batch, { s with buffer })

/-- Transform a record and load the batch that it fills. -/
def take (stream : String) (record : ρ) : Call PipelineError (Progress ω) Unit :=
  match p.transform record with
  | .error e => Call.fail e
  | .ok document => do p.loadSome stream (← push document)

/-- `take` for each record in order. -/
def takeAll (stream : String) : List ρ → Call PipelineError (Progress ω) Unit
  | [] => pure ()
  | record :: rest => do
    p.take stream record
    takeAll stream rest

variable (source : Source ω) (store : Store ω)

/-- The next page of the worker. -/
def page (allowance : Nat) : Call PipelineError (Progress ω) (Page ρ) :=
  ((Extraction.nextPage source p.decode allowance).mapError .source).within Progress.extraction
    fun extraction s => { s with extraction }

/-- Handle one page. The answer comes with the last one, after the buffer is emptied. -/
def turn (stream : String) (allowance : Nat) :
    Call PipelineError (Progress ω) (Option Unit) := do
  match ← p.page source allowance with
  | .records records =>
    count fun r => { r with extracted := r.extracted + records.length }
    p.takeAll stream records
    return none
  | .done _ =>
    p.loadSome stream (← flush)
    return some ()

/-- A pass in progress. -/
structure PassState (ω : Type) where
  book : Book ω
  report : PassReport

/-- Load everything that a worker yields. The answer is the worker as it ends. -/
def drain (spec : WorkerSpec) (allowance : Nat) : Call PipelineError (PassState ω) Worker :=
  fun s =>
    let start : Progress ω :=
      ⟨⟨p.workerOf spec s.book.cursors, s.book.world⟩, .ofLimit p.loader.batchSize, s.report⟩
    let (outcome, progress) := (p.turn source spec.stream allowance).untilSome allowance start
    (outcome.map fun _ => progress.extraction.worker,
      ⟨{ s.book with world := progress.world }, progress.report⟩)

/-- Make the cursor of a worker durable, if it moved. -/
def PassState.commit (w : Worker) : Call PipelineError (PassState ω) Unit := fun s =>
  if w.HasAdvanced then
    match s.book.advance store w.spec.stream w.cursor with
    | (.ok _, book) =>
      (.ok (), ⟨book, { s.report with streamsCommitted := s.report.streamsCommitted + 1 }⟩)
    | (.error e, book) => (.error (.state e), { s with book })
  else (.ok (), s)

/-- Run one worker. -/
def runWorker (spec : WorkerSpec) (allowance : Nat) : Call PipelineError (PassState ω) Unit := do
  PassState.commit store (← p.drain source spec allowance)

/-- Run a worker; when it fails, its scan is released, whatever comes of that. -/
def runGuarded (spec : WorkerSpec) (allowance : Nat) : Call PipelineError (PassState ω) Unit :=
  fun s =>
    match p.runWorker source store spec allowance s with
    | (.error e, s) =>
      let (_, world) := source.ask .closeScan s.book.world
      (.error e, { s with book := { s.book with world } })
    | ended => ended

/-- Run workers in order, up to the first that fails. -/
def runAll (allowance : Nat) : List WorkerSpec → Call PipelineError (PassState ω) Unit
  | [] => pure ()
  | spec :: rest => do
    p.runGuarded source store spec allowance
    runAll allowance rest

/-- One pass over every worker. -/
def execute (allowance : Nat) : Call PipelineError (Book ω) PassReport := fun book =>
  let (outcome, s) := p.runAll source store allowance p.workers ⟨book, .zero⟩
  (outcome.map fun _ => s.report, s.book)

/-- Whether the source and the index are there. -/
def preCheck : Call PipelineError (Book ω) Unit :=
  Call.within Book.world (fun world b => { b with world }) <| do
    (source.ask .ping).mapError .source
    p.loader.preCheck.mapError .load

end Pipeline

end CatalogSync
