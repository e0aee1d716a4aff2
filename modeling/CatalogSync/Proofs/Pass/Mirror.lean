import CatalogSync.Pass.Pipeline
import CatalogSync.Proofs.Call.Mirror

/-!
# Passes in a larger world

A pass whose source, loader and store live in a larger world goes as it does in the part of that
world they mirror. Whatever else the larger world keeps, such as a record of the calls, is for the
reader alone.
-/

namespace CatalogSync

open Call

variable {τ ω ρ : Type} {part : τ → ω}

/-- The source does to the part of its world what another does. -/
def Source.Mirrors (part : τ → ω) (source' : Source τ) (source : Source ω) : Prop :=
  ∀ c, Call.Mirrors part (source'.ask c) (source.ask c)

/-- The loaders write alike, batch by batch. -/
structure Loader.Mirrors (part : τ → ω) (loader' : Loader τ) (loader : Loader ω) : Prop where
  batchSize_eq : loader'.batchSize = loader.batchSize
  write : ∀ batch, Call.Mirrors part (loader'.write batch) (loader.write batch)

/-- The stores commit alike. -/
def Store.Mirrors (part : τ → ω) (store' : Store τ) (store : Store ω) : Prop :=
  ∀ m t, store.commit m (part t) = ((store'.commit m t).1, part (store'.commit m t).2)

/-- The pipeline with another loader, perhaps in another world. -/
def Pipeline.withLoader (p : Pipeline ω ρ) (loader : Loader τ) : Pipeline τ ρ where
  name := p.name
  aggregate := p.aggregate
  workers := p.workers
  decode := p.decode
  transform := p.transform
  loader := loader
  pageSize := p.pageSize

namespace Book

/-- The book over the part of its world. -/
def onPart (part : τ → ω) (b : Book τ) : Book ω := ⟨b.cursors, part b.world⟩

/-- Advancing a stream commits the same map in both worlds and moves both books alike. -/
theorem advance_onPart {store' : Store τ} {store : Store ω} (h : store'.Mirrors part store)
    (b : Book τ) (stream : String) (c : Cursor) :
    (b.onPart part).advance store stream c =
      ((b.advance store' stream c).1, (b.advance store' stream c).2.onPart part) := by
  have hcommit := h (b.cursors.insert stream (some c)) b.world
  have hposition : (b.onPart part).position stream = b.position stream := rfl
  have hcursors : (b.onPart part).cursors = b.cursors := rfl
  by_cases hback : c < b.position stream
  · simp only [advance, hposition, if_pos hback]
  by_cases hstands : c = b.position stream ∧ b.cursors.contains stream
  · simp only [advance, hposition, hcursors, if_neg hback, if_pos hstands]
  · simp only [advance, hposition, hcursors, if_neg hback, if_neg hstands]
    simp only [onPart, hcommit]
    rcases store'.commit (b.cursors.insert stream (some c)) b.world with ⟨_ | _, _⟩ <;> rfl

end Book

namespace Extraction

variable {source' : Source τ} {source : Source ω}

/-- The worker as it stands in the part of its world. -/
def onPart (part : τ → ω) (x : Extraction τ) : Extraction ω := ⟨x.worker, part x.world⟩

/-- A worker asks the source of its own world. -/
theorem mirrors_ask (h : source'.Mirrors part source) (c : SourceCall) :
    Mirrors (onPart part) (ask source' c) (ask source c) :=
  (h c).within (fun _ => rfl) fun _ _ => rfl

/-- A worker is the same in both worlds. -/
theorem mirrors_worker? : Mirrors (onPart part) worker? worker? := fun _ => rfl

/-- It is changed alike in both. -/
theorem mirrors_update (f : Worker → Worker) : Mirrors (onPart part) (update f) (update f) :=
  fun _ => rfl

/-- The worker moves up to the same greatest row. -/
theorem mirrors_probe (h : source'.Mirrors part source) :
    Mirrors (onPart part) (probe source') (probe source) := by
  refine mirrors_worker?.bind fun w => (mirrors_ask h _).bind fun answer => ?_
  cases answer with
  | none => exact .pure ()
  | some greatest => exact mirrors_update _

/-- The scan ends for the same reason, with the same probe before it is closed. -/
theorem mirrors_finish (h : source'.Mirrors part source) :
    Mirrors (onPart part) (finish source') (finish source) := by
  refine mirrors_worker?.bind fun w => ?_
  have hclose := (mirrors_ask h .closeScan).bind fun _ => mirrors_worker?.bind fun w' =>
    (@mirrors_update τ ω part fun v => { v with phase := .finished w'.reason }).bind fun _ =>
      .pure w'.reason
  split
  · exact (mirrors_probe h).bind fun _ => hclose
  · exact hclose

/-- The same aggregates are asked for and decoded. -/
theorem mirrors_recordsOf (h : source'.Mirrors part source) (decode : Decoder ρ)
    (fresh : List ChangeRow) :
    Mirrors (onPart part) (recordsOf source' decode fresh) (recordsOf source decode fresh) := by
  refine mirrors_worker?.bind fun w => (mirrors_ask h _).bind fun docs => ?_
  split
  · exact .pure _
  · exact .fail _

/-- The same records are handed on, and the scan is closed behind the same page. -/
theorem mirrors_emit (h : source'.Mirrors part source) (decode : Decoder ρ)
    (fresh : List ChangeRow) (short : Bool) :
    Mirrors (onPart part) (emit source' decode fresh short) (emit source decode fresh short) := by
  refine (mirrors_recordsOf h decode fresh).bind fun records =>
    (mirrors_update _).bind fun _ => ?_
  split
  · exact (mirrors_ask h _).bind fun _ => (mirrors_update _).bind fun _ => .pure _
  · exact .pure _

/-- A turn of a worker takes the same phase in both worlds. -/
theorem mirrors_turn (h : source'.Mirrors part source) (decode : Decoder ρ) :
    Mirrors (onPart part) (turn source' decode) (turn source decode) := by
  refine mirrors_worker?.bind fun w => ?_
  split
  · exact .pure _
  · exact (mirrors_ask h _).bind fun _ => (mirrors_update _).bind fun _ => .pure _
  · refine (mirrors_ask h (.fetch w.pageSize)).bind fun rows => (mirrors_update _).bind fun _ => ?_
    dsimp only
    split
    · split
      · exact .pure _
      · exact (mirrors_finish h).bind fun _ => .pure _
    · exact (mirrors_emit h decode _ _).bind fun _ => .pure _

/-- The next page comes after as many turns. -/
theorem mirrors_nextPage (h : source'.Mirrors part source) (decode : Decoder ρ) (allowance : Nat) :
    Mirrors (onPart part) (nextPage source' decode allowance) (nextPage source decode allowance) :=
  (mirrors_turn h decode).untilSome allowance

end Extraction

namespace Pipeline

variable {p : Pipeline ω ρ} {loader : Loader τ} {source' : Source τ} {source : Source ω}
  {store' : Store τ} {store : Store ω}

open Progress

/-- The progress of a worker as it stands in the part of its world. -/
def Progress.onPart (part : τ → ω) (s : Progress τ) : Progress ω :=
  ⟨s.extraction.onPart part, s.buffer, s.report⟩

/-- A pass as it stands in the part of its world. -/
def PassState.onPart (part : τ → ω) (s : PassState τ) : PassState ω :=
  ⟨s.book.onPart part, s.report⟩

/-- What is counted does not depend on the world. -/
theorem mirrors_count (f : PassReport → PassReport) :
    Mirrors (Progress.onPart part) (count f) (count f) := fun _ => rfl

/-- A batch is written by the loader of its own world and counted alike. -/
theorem mirrors_load (h : loader.Mirrors part p.loader) (stream : String) (batch : Batch) :
    Mirrors (Progress.onPart part) ((p.withLoader loader).load stream batch)
      (p.load stream batch) := by
  have hwrite : Mirrors (Progress.onPart part) (outside PipelineError.load (loader.write batch))
      (outside PipelineError.load (p.loader.write batch)) :=
    ((h.write batch).mapError _).within (fun _ => rfl) fun _ _ => rfl
  refine hwrite.bind fun result => (mirrors_count _).bind fun _ => ?_
  split
  · exact mirrors_count _
  · exact .fail _

/-- So is a batch that may not be there. -/
theorem mirrors_loadSome (h : loader.Mirrors part p.loader) (stream : String)
    (batch : Option Batch) :
    Mirrors (Progress.onPart part) ((p.withLoader loader).loadSome stream batch)
      (p.loadSome stream batch) := by
  cases batch with
  | none => exact .pure ()
  | some batch => exact mirrors_load h stream batch

/-- The buffer is no part of the world: a document goes into it alike. -/
theorem mirrors_push (d : Document) : Mirrors (Progress.onPart part) (push d) (push d) :=
  fun _ => rfl

/-- What is left in the buffer comes out of it alike. -/
theorem mirrors_flush : Mirrors (Progress.onPart part) flush flush := fun _ => rfl

/-- A record is transformed, buffered and loaded alike. -/
theorem mirrors_take (h : loader.Mirrors part p.loader) (stream : String) (record : ρ) :
    Mirrors (Progress.onPart part) ((p.withLoader loader).take stream record)
      (p.take stream record) := by
  have htransform : (p.withLoader loader).transform record = p.transform record := rfl
  unfold take
  rw [htransform]
  cases p.transform record with
  | error e => exact .fail e
  | ok document => exact (mirrors_push document).bind fun batch => mirrors_loadSome h stream batch

/-- So are the records of a page, up to the first that fails. -/
theorem mirrors_takeAll (h : loader.Mirrors part p.loader) (stream : String) (records : List ρ) :
    Mirrors (Progress.onPart part) ((p.withLoader loader).takeAll stream records)
      (p.takeAll stream records) := by
  induction records with
  | nil => exact .pure ()
  | cons record rest ih => exact (mirrors_take h stream record).bind fun _ => ih

/-- A page is taken from the worker of its own world. -/
theorem mirrors_page (h : source'.Mirrors part source) (allowance : Nat) :
    Mirrors (Progress.onPart part) ((p.withLoader loader).page source' allowance)
      (p.page source allowance) :=
  ((Extraction.mirrors_nextPage h p.decode allowance).mapError _).within (fun _ => rfl)
    fun _ _ => rfl

/-- A turn takes one page and all of its records in both worlds. -/
theorem mirrors_turn (h : source'.Mirrors part source) (hl : loader.Mirrors part p.loader)
    (stream : String) (allowance : Nat) :
    Mirrors (Progress.onPart part) ((p.withLoader loader).turn source' stream allowance)
      (p.turn source stream allowance) := by
  refine (mirrors_page h allowance).bind fun page => ?_
  cases page with
  | records records =>
    exact (mirrors_count _).bind fun _ => (mirrors_takeAll hl stream records).bind fun _ => .pure _
  | done reason =>
    exact mirrors_flush.bind fun batch => (mirrors_loadSome hl stream batch).bind fun _ => .pure _

/-- A worker is drained alike. -/
theorem mirrors_drain (h : source'.Mirrors part source) (hl : loader.Mirrors part p.loader)
    (spec : WorkerSpec) (allowance : Nat) :
    Mirrors (PassState.onPart part) ((p.withLoader loader).drain source' spec allowance)
      (p.drain source spec allowance) := by
  intro s
  let start : Progress τ :=
    ⟨⟨p.workerOf spec s.book.cursors, s.book.world⟩, .ofLimit loader.batchSize, s.report⟩
  have hstart : ⟨⟨p.workerOf spec s.book.cursors, part s.book.world⟩, .ofLimit p.loader.batchSize,
      s.report⟩ = start.onPart part := by
    rw [← hl.batchSize_eq]
    rfl
  have hturns := (mirrors_turn h hl spec.stream allowance).untilSome allowance start
  simp only [drain, PassState.onPart, Book.onPart, hstart, hturns]
  rfl

/-- A stream is committed to the store of its own world, if its worker has moved. -/
theorem mirrors_commit (h : store'.Mirrors part store) (w : Worker) :
    Mirrors (PassState.onPart part) (PassState.commit store' w) (PassState.commit store w) := by
  intro s
  by_cases hadvanced : w.HasAdvanced
  · have hbook := Book.advance_onPart h s.book w.spec.stream w.cursor
    simp only [PassState.commit, if_pos hadvanced, PassState.onPart, hbook]
    rcases s.book.advance store' w.spec.stream w.cursor with ⟨e | _, b⟩ <;> rfl
  · simp only [PassState.commit, if_neg hadvanced]

/-- A worker runs alike from its drain to its commit. -/
theorem mirrors_runWorker (h : source'.Mirrors part source) (hl : loader.Mirrors part p.loader)
    (hs : store'.Mirrors part store) (spec : WorkerSpec) (allowance : Nat) :
    Mirrors (PassState.onPart part)
      ((p.withLoader loader).runWorker source' store' spec allowance)
      (p.runWorker source store spec allowance) :=
  (mirrors_drain h hl spec allowance).bind fun w => mirrors_commit hs w

/-- If it fails, its scan is closed in its own world. -/
theorem mirrors_runGuarded (h : source'.Mirrors part source) (hl : loader.Mirrors part p.loader)
    (hs : store'.Mirrors part store) (spec : WorkerSpec) (allowance : Nat) :
    Mirrors (PassState.onPart part)
      ((p.withLoader loader).runGuarded source' store' spec allowance)
      (p.runGuarded source store spec allowance) := by
  intro s
  have hrun := mirrors_runWorker h hl hs spec allowance s
  simp only [runGuarded, hrun]
  rcases (p.withLoader loader).runWorker source' store' spec allowance s with ⟨_ | e | _, s'⟩
  · rfl
  · have hclose := h .closeScan s'.book.world
    simp only [PassState.onPart, Book.onPart, hclose]
  · rfl

/-- Workers run alike, up to the first that fails. -/
theorem mirrors_runAll (h : source'.Mirrors part source) (hl : loader.Mirrors part p.loader)
    (hs : store'.Mirrors part store) (allowance : Nat) (specs : List WorkerSpec) :
    Mirrors (PassState.onPart part)
      ((p.withLoader loader).runAll source' store' allowance specs)
      (p.runAll source store allowance specs) := by
  induction specs with
  | nil => exact .pure ()
  | cons spec rest ih => exact (mirrors_runGuarded h hl hs spec allowance).bind fun _ => ih

/-- A pass over mirroring parts ends as the pass in the part, and leaves the part as that does. -/
theorem mirrors_execute (h : source'.Mirrors part source) (hl : loader.Mirrors part p.loader)
    (hs : store'.Mirrors part store) (allowance : Nat) :
    Mirrors (Book.onPart part) ((p.withLoader loader).execute source' store' allowance)
      (p.execute source store allowance) := by
  intro b
  have hrun := mirrors_runAll h hl hs allowance p.workers ⟨b, .zero⟩
  simp only [PassState.onPart] at hrun
  simp only [execute, hrun]
  rfl

end Pipeline

end CatalogSync
