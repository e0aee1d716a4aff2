import CatalogSync.Pass.Pipeline
import CatalogSync.Proofs.Call.Ends
import CatalogSync.Proofs.Store.Book

/-!
# The small steps of a worker and of a pass

How the calls end that only read or change the worker, the buffer or the numbers of a pass. A
worker keeps its stream, what it scans and where it started from, whatever else changes.
-/

namespace CatalogSync

/-- The records on a page. -/
def Page.toList {ρ : Type} : Page ρ → List ρ
  | .records list => list
  | .done _ => []

/-- Making names distinct loses none of them. -/
theorem mem_distinct {name : String} {names : List String} :
    name ∈ distinct names ↔ name ∈ names := by
  induction names with
  | nil => simp [distinct]
  | cons a rest ih =>
    by_cases h : name = a <;> simp [distinct, ih, h]

/-- Distinct names are there once each. -/
theorem nodup_distinct (names : List String) : (distinct names).Nodup := by
  induction names with
  | nil => exact List.nodup_nil
  | cons name rest ih =>
    refine List.nodup_cons.2 ⟨?_, ih.filter _⟩
    simp [List.mem_filter]

namespace Worker

/-- The worker is over the same stream in the same way, and started from the same place. -/
structure IsSame (v w : Worker) : Prop where
  spec : w.spec = v.spec
  aggregate : w.aggregate = v.aggregate
  pageSize : w.pageSize = v.pageSize
  start : w.start = v.start
  root : w.root = v.root

/-- A worker is the same as itself. -/
theorem IsSame.refl (w : Worker) : w.IsSame w := ⟨rfl, rfl, rfl, rfl, rfl⟩

/-- A worker that stays the same twice has stayed the same. -/
theorem IsSame.trans {u v w : Worker} (huv : u.IsSame v) (hvw : v.IsSame w) : u.IsSame w where
  spec := hvw.spec.trans huv.spec
  aggregate := hvw.aggregate.trans huv.aggregate
  pageSize := hvw.pageSize.trans huv.pageSize
  start := hvw.start.trans huv.start
  root := hvw.root.trans huv.root

/-- Moving the cursor changes nothing that a worker always is. -/
theorem isSame_raise (w : Worker) (c : Cursor) : w.IsSame (w.raise c) := by
  unfold raise
  split
  · exact ⟨rfl, rfl, rfl, rfl, rfl⟩
  · exact IsSame.refl w

/-- Moving the cursor leaves the phase. -/
@[simp] theorem raise_phase (w : Worker) (c : Cursor) : (w.raise c).phase = w.phase := by
  unfold raise
  split <;> rfl

/-- Moving the cursor counts no rows. -/
@[simp] theorem raise_rowsSeen (w : Worker) (c : Cursor) : (w.raise c).rowsSeen = w.rowsSeen := by
  unfold raise
  split <;> rfl

/-- Moving the cursor hands on no records. -/
@[simp] theorem raise_emitted (w : Worker) (c : Cursor) : (w.raise c).emitted = w.emitted := by
  unfold raise
  split <;> rfl

/-- The worker after it yielded so many records of some rows: it stands at the last row. -/
def yielding (w : Worker) (rows : List ChangeRow) (records : Nat) : Worker :=
  let w := match rows.getLast? with
    | some last => w.raise last.cursor
    | none => w
  { w with emitted := w.emitted + records }

/-- Handing on records changes nothing that a worker always is. -/
theorem isSame_yielding (w : Worker) (rows : List ChangeRow) (records : Nat) :
    w.IsSame (w.yielding rows records) := by
  unfold yielding
  cases rows.getLast? with
  | none => exact ⟨rfl, rfl, rfl, rfl, rfl⟩
  | some last => exact (isSame_raise w _).trans ⟨rfl, rfl, rfl, rfl, rfl⟩

/-- Handing on records leaves the phase. -/
@[simp] theorem yielding_phase (w : Worker) (rows : List ChangeRow) (records : Nat) :
    (w.yielding rows records).phase = w.phase := by
  unfold yielding
  cases rows.getLast? <;> simp

/-- Handing on records counts no rows: these are counted when they are fetched. -/
@[simp] theorem yielding_rowsSeen (w : Worker) (rows : List ChangeRow) (records : Nat) :
    (w.yielding rows records).rowsSeen = w.rowsSeen := by
  unfold yielding
  cases rows.getLast? <;> simp

/-- Records that are handed on are counted. -/
@[simp] theorem yielding_emitted (w : Worker) (rows : List ChangeRow) (records : Nat) :
    (w.yielding rows records).emitted = w.emitted + records := by
  unfold yielding
  cases rows.getLast? <;> simp

end Worker

namespace Extraction

/-- The records of the fresh rows are handed on, and the scan is closed if the page was short. -/
theorem emit_eq {ω ρ : Type} (source : Source ω) (decode : Decoder ρ) (fresh : List ChangeRow)
    (short : Bool) :
    emit source decode fresh short = do
      let records ← recordsOf source decode fresh
      update fun w => w.yielding fresh records.length
      if short then
        ask source .closeScan
        update fun w => { w with phase := .finished .exhausted }
      return records := rfl

variable {ω : Type} {F : Option SourceError → Extraction ω → Prop} {x : Extraction ω}

/-- The worker is looked at as it stands. -/
@[simp] theorem ends_worker? {A : Worker → Extraction ω → Prop} :
    worker?.Ends A F x ↔ A x.worker x := Iff.rfl

/-- A change to the worker cannot fail and leaves the world. -/
@[simp] theorem ends_update {A : Unit → Extraction ω → Prop} {f : Worker → Worker} :
    (update f).Ends A F x ↔ A () { x with worker := f x.worker } := Iff.rfl

/-- A question to the source changes nothing about the worker. -/
@[simp] theorem ends_ask {source : Source ω} {c : SourceCall}
    {A : c.Answer → Extraction ω → Prop} :
    (ask source c).Ends A F x ↔
      (source.ask c).Ends (fun a world => A a { x with world })
        (fun e world => F e { x with world }) x.world :=
  Call.ends_within

end Extraction

namespace Pipeline

variable {ω : Type} {F : Option PipelineError → Progress ω → Prop} {s : Progress ω}

/-- Counting cannot fail and leaves everything but the report. -/
@[simp] theorem Progress.ends_count {A : Unit → Progress ω → Prop}
    {f : PassReport → PassReport} :
    (Progress.count f).Ends A F s ↔ A () { s with report := f s.report } := Iff.rfl

/-- A call on the world leaves the worker, the buffer and the report. -/
@[simp] theorem Progress.ends_outside {ε α : Type} {asPipelineError : ε → PipelineError}
    {c : Call ε ω α} {A : α → Progress ω → Prop} :
    (Progress.outside asPipelineError c).Ends A F s ↔
      c.Ends (fun a world => A a { s with extraction := { s.extraction with world } })
        (fun e world => F (e.map asPipelineError)
          { s with extraction := { s.extraction with world } }) s.world := by
  simp only [Progress.outside, Call.ends_within, Call.ends_mapError]

/-- What is left in the buffer is taken out of it. -/
@[simp] theorem ends_flush {A : Option Batch → Progress ω → Prop} :
    flush.Ends A F s ↔ A s.buffer.flush.1 { s with buffer := s.buffer.flush.2 } := Iff.rfl

/-- A push ends as the buffer answers it. -/
theorem ends_push {d : Document} {A : Option Batch → Progress ω → Prop} :
    (push d).Ends A F s ↔
      match s.buffer.push d with
      | (.ok batch, buffer) => A batch { s with buffer }
      | (.error e, buffer) => F (some (.load e)) { s with buffer } := by
  rcases h : s.buffer.push d with ⟨_ | _, _⟩ <;>
    simp only [push, Call.Ends, h, Outcome.ofExcept, Outcome.mapError]

/-- The progress of a worker before its first page. -/
def atStart {ρ : Type} (p : Pipeline ω ρ) (spec : WorkerSpec) (st : PassState ω) : Progress ω :=
  ⟨⟨p.workerOf spec st.book.cursors, st.book.world⟩, .ofLimit p.loader.batchSize, st.report⟩

/-- A drain ends as its turns do, and leaves the cursors of the book alone. -/
theorem ends_drain {ρ : Type} {p : Pipeline ω ρ} {source : Source ω} {spec : WorkerSpec}
    {allowance : Nat} {A : Worker → PassState ω → Prop}
    {F : Option PipelineError → PassState ω → Prop} {st : PassState ω} :
    (p.drain source spec allowance).Ends A F st ↔
      ((p.turn source spec.stream allowance).untilSome allowance).Ends
        (fun _ s => A s.extraction.worker ⟨⟨st.book.cursors, s.world⟩, s.report⟩)
        (fun e s => F e ⟨⟨st.book.cursors, s.world⟩, s.report⟩) (p.atStart spec st) := by
  rcases h : (p.turn source spec.stream allowance).untilSome allowance (p.atStart spec st)
    with ⟨_ | _ | _, s⟩ <;>
  · have hstart := h
    simp only [atStart] at hstart
    simp only [drain, Call.Ends, hstart, h, Outcome.map]

/-- A worker that moved asks the store, and nothing changes if the store fails. -/
theorem ends_commit {store : Store ω} {w : Worker} {st : PassState ω}
    {A : Unit → PassState ω → Prop} {F : Option PipelineError → PassState ω → Prop}
    (hstart : w.start = st.book.position w.spec.stream) :
    (PassState.commit store w).Ends A F st ↔
      if w.HasAdvanced then
        match store.commit (st.book.cursors.insert w.spec.stream (some w.cursor)) st.book.world with
        | (.ok (), world) =>
          A () ⟨⟨st.book.cursors.insert w.spec.stream (some w.cursor), world⟩,
            { st.report with streamsCommitted := st.report.streamsCommitted + 1 }⟩
        | (.error e, world) => F (some (.state e)) ⟨⟨st.book.cursors, world⟩, st.report⟩
      else A () st := by
  by_cases hmoved : w.HasAdvanced
  · have hlt : st.book.position w.spec.stream < w.cursor := by
      rw [← hstart]
      exact hmoved
    have hadvance := Book.advance_of_lt store hlt
    rcases hcommit : store.commit (st.book.cursors.insert w.spec.stream (some w.cursor))
      st.book.world with ⟨_ | _, _⟩ <;>
      simp only [hcommit] at hadvance <;>
      simp only [Call.Ends, PassState.commit, if_pos hmoved, hadvance]
  · simp only [Call.Ends, PassState.commit, if_neg hmoved]

section

variable {ρ : Type} {p : Pipeline ω ρ} {source : Source ω} {store : Store ω} {allowance : Nat}

/-- A worker that fails is followed by a release of its scan. -/
theorem ends_runGuarded {spec : WorkerSpec} {A : Unit → PassState ω → Prop}
    {F : Option PipelineError → PassState ω → Prop} {st : PassState ω} :
    (p.runGuarded source store spec allowance).Ends A F st ↔
      (p.runWorker source store spec allowance).Ends A
        (fun e s => F e <| if e.isSome then
          { s with book := { s.book with world := (source.ask .closeScan s.book.world).2 } }
          else s) st := by
  rcases h : p.runWorker source store spec allowance st with ⟨_ | _ | _, s⟩ <;>
    simp [Call.Ends, runGuarded, h]

/-- A pass ends as its workers do. -/
theorem ends_execute {A : PassReport → Book ω → Prop}
    {F : Option PipelineError → Book ω → Prop} {b : Book ω} :
    (p.execute source store allowance).Ends A F b ↔
      (p.runAll source store allowance p.workers).Ends (fun _ s => A s.report s.book)
        (fun e s => F e s.book) ⟨b, .zero⟩ := by
  rcases h : p.runAll source store allowance p.workers ⟨b, .zero⟩ with ⟨_ | _ | _, s⟩ <;>
    simp [Call.Ends, execute, h, Outcome.map]

end

end Pipeline

end CatalogSync
