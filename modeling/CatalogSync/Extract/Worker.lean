import CatalogSync.Source.Basic

/-!
# Extraction workers

A worker walks one change stream from the cursor where it stands and yields pages of decoded
aggregates. Rows at or before that cursor were handled by an earlier pass and are skipped. Every
page moves the worker's own cursor to the last row behind it; the caller makes it durable once
everything the worker yielded has been loaded.
-/

namespace CatalogSync

/-- What a worker scans, and for which stream. -/
structure WorkerSpec where
  stream : String
  selection : Selection
  /-- Ask for the greatest row of the table when the scan has none. -/
  probes : Bool
  deriving DecidableEq

namespace WorkerSpec

/-- A worker over the rows of the aggregate itself. -/
def root (stream : String) (entity : Entity) : WorkerSpec := ⟨stream, .root entity, false⟩

/-- A worker over the changes of a related table. -/
def related (stream : String) (entity : Entity) : WorkerSpec := ⟨stream, .related entity, true⟩

def isRelated (s : WorkerSpec) : Bool := s.selection.isRelated

end WorkerSpec

/-- Why a worker has nothing more to yield. -/
inductive DoneReason where
  /-- The scan held no row. -/
  | empty
  /-- The scan held no row after the cursor. -/
  | caughtUp
  | exhausted
  deriving DecidableEq, Repr

/-- What a worker yields. -/
inductive Page (ρ : Type) where
  | records (records : List ρ)
  | done (reason : DoneReason)
  deriving DecidableEq

inductive WorkerPhase where
  | idle
  | scanning
  | finished (reason : DoneReason)
  deriving DecidableEq, Repr

/-- A worker and how far it has come. -/
structure Worker where
  spec : WorkerSpec
  aggregate : Aggregate
  pageSize : Nat
  /-- The cursor the worker started from. -/
  start : Cursor
  /-- The root cursor that bounds a related scan. -/
  root : Option Cursor
  cursor : Cursor
  phase : WorkerPhase
  rowsSeen : Nat
  /-- How many records were yielded. -/
  emitted : Nat

namespace Worker

/-- A worker about to start; a page size of zero counts as one. -/
def ofSpec (spec : WorkerSpec) (aggregate : Aggregate) (start : Cursor) (root : Option Cursor)
    (pageSize : Nat) : Worker :=
  ⟨spec, aggregate, max pageSize 1, start, root, start, .idle, 0, 0⟩

/-- Whether the worker came past the cursor it started from. -/
def HasAdvanced (w : Worker) : Prop := w.start < w.cursor

instance (w : Worker) : Decidable w.HasAdvanced := inferInstanceAs (Decidable (_ < _))

/-- The rows that no earlier pass has handled. -/
def fresh (w : Worker) (rows : List ChangeRow) : List ChangeRow :=
  rows.filter fun r => w.start < r.cursor

/-- The worker with its cursor moved up to another, never back. -/
def raise (w : Worker) (c : Cursor) : Worker :=
  if w.cursor < c then { w with cursor := c } else w

/-- Why a worker that has closed its scan without a fresh row is done. -/
def reason (w : Worker) : DoneReason :=
  if w.rowsSeen = 0 then .empty
  else if w.emitted = 0 ∧ w.cursor = w.start then .caughtUp
  else .exhausted

end Worker

/-- Each name once, at its first place. -/
def distinct : List String → List String
  | [] => []
  | name :: rest => name :: (distinct rest).filter (· ≠ name)

/-- The error of a page whose aggregates are not shaped as records. -/
def malformedAggregate (stream : String) (e : DecodeError) : SourceError :=
  .data s!"stream '{stream}': malformed aggregate: {e.message}"

/-- A worker in the world of its source. -/
structure Extraction (ω : Type) where
  worker : Worker
  world : ω

namespace Extraction

variable {ω ρ : Type} (source : Source ω)

def ask (c : SourceCall) : Call SourceError (Extraction ω) c.Answer :=
  (source.ask c).within Extraction.world fun world x => { x with world }

def worker? : Call SourceError (Extraction ω) Worker := fun x => (.ok x.worker, x)

def update (f : Worker → Worker) : Call SourceError (Extraction ω) Unit := fun x =>
  (.ok (), { x with worker := f x.worker })

/-- Move the cursor up to the greatest row of the table. -/
def probe : Call SourceError (Extraction ω) Unit := do
  let w ← worker?
  match ← ask source (.probe w.spec.selection.entity) with
  | some greatest => update (·.raise greatest)
  | none => pure ()

/-- End a scan that has no fresh row left. The probe comes before the close, so that it sees the
table as the scan did. -/
def finish : Call SourceError (Extraction ω) DoneReason := do
  let w ← worker?
  if w.rowsSeen = 0 ∧ w.spec.probes then probe source
  ask source .closeScan
  let reason := (← worker?).reason
  update fun w => { w with phase := .finished reason }
  return reason

/-- Rebuild and decode the aggregates of some fresh rows. -/
def recordsOf (decode : Decoder ρ) (fresh : List ChangeRow) :
    Call SourceError (Extraction ω) (List ρ) := do
  let w ← worker?
  let docs ← ask source (.enrich w.aggregate (distinct (fresh.map ChangeRow.rootId)))
  match docs.mapM decode with
  | .ok records => return records
  | .error e => Call.fail (malformedAggregate w.spec.stream e)

/-- Yield the records of some fresh rows and stand at the last of them. A short page ends the
scan. -/
def emit (decode : Decoder ρ) (fresh : List ChangeRow) (short : Bool) :
    Call SourceError (Extraction ω) (List ρ) := do
  let records ← recordsOf source decode fresh
  update fun w =>
    let w := match fresh.getLast? with
      | some last => w.raise last.cursor
      | none => w
    { w with emitted := w.emitted + records.length }
  if short then
    ask source .closeScan
    update fun w => { w with phase := .finished .exhausted }
  return records

/-- One turn of a worker. No answer means that another turn is due: the scan was only opened, or a
full page held nothing fresh. -/
def turn (decode : Decoder ρ) : Call SourceError (Extraction ω) (Option (Page ρ)) := do
  let w ← worker?
  match w.phase with
  | .finished reason => return some (.done reason)
  | .idle =>
    ask source (.openScan w.spec.selection w.start w.root)
    update fun w => { w with phase := .scanning }
    return none
  | .scanning =>
    let rows : List ChangeRow ← ask source (.fetch w.pageSize)
    update fun w => { w with rowsSeen := w.rowsSeen + rows.length }
    let fresh := w.fresh rows
    let short := decide (rows.length < w.pageSize)
    if fresh = [] then
      if rows ≠ [] ∧ ¬short then return none
      else return some (.done (← finish source))
    else return some (.records (← emit source decode fresh short))

/-- The next page of a worker. Once the worker is done, the answer stays the same. -/
def nextPage (decode : Decoder ρ) (allowance : Nat) : Call SourceError (Extraction ω) (Page ρ) :=
  (turn source decode).untilSome allowance

end Extraction

end CatalogSync
