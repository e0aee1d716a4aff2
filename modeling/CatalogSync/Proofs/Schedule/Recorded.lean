import CatalogSync.Proofs.Pass.Log
import CatalogSync.Proofs.Schedule.Cycles

/-!
# The record of a run

A scheduler may be run in a world that also keeps what every pass did, pass by pass. By
`plain_cycled` its cycles go as they do without the record.
-/

namespace CatalogSync

/-- A pipeline of some record type, with the source that it reads. -/
structure Bound (ω : Type) where
  Record : Type
  pipeline : Pipeline ω Record
  source : Source ω
  /-- How many turns its calls are allowed. -/
  allowance : Nat

/-- The pipeline as a scheduler sees it, with the store of the cursors. -/
def Bound.job {ω : Type} (store : Store ω) (b : Bound ω) : Job ω :=
  b.pipeline.job b.source store b.allowance

/-- What one pass of a pipeline did. -/
structure PassRecord where
  name : String
  workers : List WorkerSpec
  events : List PassEvent

/-- The streams that the pipeline of a pass owns. -/
def PassRecord.streams (r : PassRecord) : List String := r.workers.map WorkerSpec.stream

/-- What some passes did, one after the other. -/
def eventsOf (passes : List PassRecord) : List PassEvent := passes.flatMap PassRecord.events

@[simp] theorem eventsOf_nil : eventsOf [] = [] := rfl

@[simp] theorem eventsOf_append (passes more : List PassRecord) :
    eventsOf (passes ++ more) = eventsOf passes ++ eventsOf more :=
  List.flatMap_append

@[simp] theorem eventsOf_singleton (r : PassRecord) : eventsOf [r] = r.events :=
  List.flatMap_singleton ..

/-- A world with a record of the passes that were made in it. -/
structure Recorded (ω : Type) where
  world : ω
  passes : List PassRecord

variable {ω : Type}

def Store.recorded (store : Store ω) : Store (Recorded ω) :=
  store.within Recorded.world fun world r => { r with world }

def Clock.recorded (clock : Clock ω) : Clock (Recorded ω) where
  now r := clock.now r.world
  isCancelled r := clock.isCancelled r.world
  sleep span r :=
    let (cancelled, world) := clock.sleep span r.world
    (cancelled, { r with world })
  pause span r := { r with world := clock.pause span r.world }

/-- The pipeline with each of its passes recorded. -/
def Bound.recordedJob (store : Store ω) (b : Bound ω) : Job (Recorded ω) where
  name := b.pipeline.name
  streams := b.pipeline.streams
  preCheck book :=
    let (outcome, after) := b.pipeline.preCheck b.source (book.onPart Recorded.world)
    (outcome, { book with world := { book.world with world := after.world } })
  execute book :=
    let (outcome, after) := b.pipeline.logged.execute b.source.logged store.logged b.allowance
      ⟨book.cursors, ⟨book.world.world, []⟩⟩
    (outcome, ⟨after.cursors, ⟨after.world.world, book.world.passes ++
      [⟨b.pipeline.name, b.pipeline.workers, after.world.events⟩]⟩⟩)

namespace Scheduler

variable (store : Store ω) (bs : List (Bound ω)) (clock : Clock ω)

/-- The scheduler of the same pipelines without the record. -/
def plain (s : Scheduler (Recorded ω)) : Scheduler ω :=
  ⟨bs.map (Bound.job store), s.book.onPart Recorded.world, s.registry, s.cycles⟩

variable {store bs clock}

/-- A recorded pass goes as the pass itself. -/
theorem mirrors_recordedJob (b : Bound ω) :
    (b.recordedJob store).Mirrors Recorded.world (b.job store) where
  name_eq := rfl
  streams_eq := rfl
  execute book :=
    b.pipeline.logged_execute b.source store b.allowance ⟨book.cursors, ⟨book.world.world, []⟩⟩

theorem mirrors_recorded (clock : Clock ω) : clock.recorded.Mirrors Recorded.world clock :=
  ⟨fun _ => rfl, fun _ => rfl, fun _ _ => rfl⟩

/-- Recorded cycles go as the cycles themselves. -/
theorem plain_cycled (n : Nat) {s : Scheduler (Recorded ω)}
    (hlist : s.jobs = bs.map (Bound.recordedJob store)) :
    cycled clock n (plain store bs s) = plain store bs (cycled clock.recorded n s) := by
  refine onPart_cycled (mirrors_recorded clock) ?_ n
  rw [hlist, List.forall₂_map_left_iff, List.forall₂_map_right_iff]
  exact List.forall₂_same.2 fun b _ => mirrors_recordedJob b

/-- The scheduler without the record is started as it would be anyway. -/
theorem plain_start (bs : List (Bound ω)) {world : ω} {m : CursorMap}
    (hload : store.load world = .ok m) :
    ∃ recorded, start? store.recorded (bs.map (Bound.recordedJob store)) ⟨world, []⟩ =
        .ok recorded ∧
      start? store (bs.map (Bound.job store)) world = .ok (plain store bs recorded) ∧
      recorded.jobs = bs.map (Bound.recordedJob store) ∧ recorded.book.world.passes = [] ∧
      ∀ s, recorded.book.position s = m.position s := by
  refine ⟨_, start?_eq store.recorded _ hload, ?_, rfl, rfl, fun s => ?_⟩
  · rw [start?_eq store _ hload]
    simp only [plain, Book.onPart, Book.register, List.foldl_map, List.flatMap_map]
    rfl
  · exact Book.position_register ..

end Scheduler

end CatalogSync
