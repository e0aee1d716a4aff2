import CatalogSync.Proofs.Extract.Turns

/-!
# A rule for draining a worker

A worker is drained page by page, record by record and batch by batch. Whatever is to be known of it
at the end needs to be kept by four things only: the next page, a record that is placed behind the
others or refused, and a batch that is written. `DrainRule` lists what is to be shown of them, and
`DrainRule.ends_drain` draws the conclusion. Where records and entries do not matter, it is enough
to look at turns and batches (`ends_drain_kept`).
-/

namespace CatalogSync

namespace Pipeline

variable {ω ρ : Type}

/-- The entry of a record, or why it has none. -/
def entryOf (p : Pipeline ω ρ) (record : ρ) : Except PipelineError Entry := do
  let document ← p.transform record
  match document.source with
  | .ok source => .ok ⟨document.id, source⟩
  | .error detail => .error (.load (.serialization detail))

theorem entryOf_eq_ok {p : Pipeline ω ρ} {record : ρ} {entry : Entry}
    (h : p.entryOf record = .ok entry) :
    ∃ document, p.transform record = .ok document ∧ document.id = entry.id ∧
      document.source = .ok entry.source := by
  unfold entryOf at h
  cases htransform : p.transform record with
  | error e =>
    rw [htransform] at h
    cases h
  | ok document =>
    rw [htransform] at h
    simp only [bind, Except.bind] at h
    cases hsource : document.source with
    | error detail =>
      rw [hsource] at h
      cases h
    | ok source =>
      rw [hsource] at h
      cases h
      exact ⟨document, rfl, rfl, hsource⟩

/-- What is kept while a worker is drained. `J hand placed x` is said of a worker when the records
in hand are not handled yet and the placed entries are not written yet, `D` of a worker that is
done, and `F` of one that fails or does not finish. -/
structure DrainRule (p : Pipeline ω ρ) (source : Source ω) (stream : String) (allowance : Nat)
    (J : List ρ → List Entry → Extraction ω → Prop) (D : Worker → Prop)
    (F : Option PipelineError → Extraction ω → Prop) : Prop where
  page : ∀ placed x, J [] placed x →
    (Extraction.nextPage source p.decode allowance).Ends
      (fun page x' => J page.toList placed x' ∧ ∀ reason, page = .done reason → D x'.worker)
      (fun e x' => F (e.map .source) x') x
  place : ∀ record hand placed entry x, J (record :: hand) placed x →
    p.entryOf record = .ok entry → J hand (placed ++ [entry]) x
  refuse : ∀ record hand placed e x, J (record :: hand) placed x →
    p.entryOf record = .error e → F (some e) x
  write : ∀ hand batch placed x, J hand (batch ++ placed) x →
    (p.loader.write batch).Ends
      (fun result world =>
        if result.IsVerified then J hand placed { x with world }
        else F (some (.verification p.name stream result.sent result.accepted)) { x with world })
      (fun e world => F (e.map .load) { x with world }) x.world
  unfinished : ∀ placed x, J [] placed x → F none x

namespace DrainRule

variable {p : Pipeline ω ρ} {source : Source ω} {stream : String} {allowance : Nat}
  {J : List ρ → List Entry → Extraction ω → Prop} {D : Worker → Prop}
  {F : Option PipelineError → Extraction ω → Prop} {hand : List ρ} {s : Progress ω}

/-- A batch that was taken out of the buffer is written; the worker and the buffer stay. -/
theorem ends_load (h : p.DrainRule source stream allowance J D F) {batch : Batch}
    (hs : J hand (batch ++ s.buffer.pending) s.extraction) :
    (p.load stream batch).Ends
      (fun _ s' => J hand s'.buffer.pending s'.extraction ∧ s'.buffer = s.buffer ∧
        s'.extraction.worker = s.extraction.worker)
      (fun e s' => F e s'.extraction) s := by
  simp only [load, Call.ends_bind, Progress.ends_outside, Progress.ends_count]
  refine (h.write hand batch _ _ hs).mono (fun result world hresult => ?_) fun e world he => he
  split
  · next hverified =>
    rw [if_pos hverified] at hresult
    exact ⟨hresult, rfl, rfl⟩
  · next hrejected =>
    rw [if_neg hrejected] at hresult
    exact Call.ends_fail.2 hresult

theorem ends_loadSome (h : p.DrainRule source stream allowance J D F) {batch : Option Batch}
    (hs : J hand (batch.getD [] ++ s.buffer.pending) s.extraction) :
    (p.loadSome stream batch).Ends
      (fun _ s' => J hand s'.buffer.pending s'.extraction ∧ s'.buffer = s.buffer ∧
        s'.extraction.worker = s.extraction.worker)
      (fun e s' => F e s'.extraction) s := by
  cases batch with
  | none => exact Call.ends_pure.2 ⟨hs, rfl, rfl⟩
  | some batch => exact h.ends_load hs

/-- A record is placed behind the others, and the batch it fills is written. -/
theorem ends_take (h : p.DrainRule source stream allowance J D F) {record : ρ}
    (hs : J (record :: hand) s.buffer.pending s.extraction) :
    (p.take stream record).Ends (fun _ s' => J hand s'.buffer.pending s'.extraction)
      (fun e s' => F e s'.extraction) s := by
  unfold take
  cases htransform : p.transform record with
  | error e =>
    refine Call.ends_fail.2 (h.refuse record hand _ e _ hs ?_)
    rw [entryOf, htransform]
    rfl
  | ok document =>
    rw [Call.ends_bind, ends_push]
    rcases hpush : s.buffer.push document with ⟨e | batch, buffer⟩
    · obtain ⟨detail, hsource, rfl⟩ := BatchBuffer.push_eq_error hpush
      refine h.refuse record hand _ _ _ hs ?_
      rw [entryOf, htransform]
      simp only [bind, Except.bind, hsource]
    · obtain ⟨source, hsource, hplaced⟩ := BatchBuffer.entries_push hpush
      have hentry : p.entryOf record = .ok ⟨document.id, source⟩ := by
        rw [entryOf, htransform]
        simp only [bind, Except.bind, hsource]
      have htaken := h.place record hand _ _ _ hs hentry
      rw [← hplaced] at htaken
      exact (h.ends_loadSome (s := { s with buffer }) htaken).imp fun _ _ hs' => hs'.1

theorem ends_takeAll (h : p.DrainRule source stream allowance J D F)
    (hs : J hand s.buffer.pending s.extraction) :
    (p.takeAll stream hand).Ends (fun _ s' => J [] s'.buffer.pending s'.extraction)
      (fun e s' => F e s'.extraction) s := by
  induction hand generalizing s with
  | nil => exact Call.ends_pure.2 hs
  | cons record rest ih => exact Call.ends_bind.2 ((h.ends_take hs).imp fun _ _ hs' => ih hs')

/-- Only the turn behind the last page is the last, and it leaves nothing in the buffer. -/
theorem ends_turn (h : p.DrainRule source stream allowance J D F)
    (hs : J [] s.buffer.pending s.extraction) :
    (p.turn source stream allowance).Ends
      (fun last s' => J [] s'.buffer.pending s'.extraction ∧
        (last = some () → s'.buffer.pending = [] ∧ D s'.extraction.worker))
      (fun e s' => F e s'.extraction) s := by
  simp only [turn, Pipeline.page, Call.ends_bind, Call.ends_within, Call.ends_mapError]
  refine (h.page _ _ hs).imp fun page x hx => ?_
  obtain ⟨hx, hdone⟩ := hx
  cases page with
  | records records =>
    simp only [Call.ends_bind, Progress.ends_count, Call.ends_pure]
    exact (h.ends_takeAll hx).imp fun _ _ hs' => ⟨hs', fun hlast => by cases hlast⟩
  | done reason =>
    simp only [Call.ends_bind, ends_flush, Call.ends_pure]
    rw [← s.buffer.entries_flush] at hx
    refine (h.ends_loadSome hx).imp fun _ s' hs' => ⟨hs'.1, fun _ => ⟨?_, ?_⟩⟩
    · rw [hs'.2.1]
      exact s.buffer.flush_pending
    · rw [hs'.2.2]
      exact hdone reason rfl

/-- What the rule keeps holds of a worker that is drained, with nothing left to handle. -/
theorem ends_drain {spec : WorkerSpec} (h : p.DrainRule source spec.stream allowance J D F)
    {st : PassState ω} (hs : J [] [] ⟨p.workerOf spec st.book.cursors, st.book.world⟩) :
    (p.drain source spec allowance).Ends
      (fun w st' => st'.book.cursors = st.book.cursors ∧ D w ∧ J [] [] ⟨w, st'.book.world⟩)
      (fun e st' => st'.book.cursors = st.book.cursors ∧ ∃ w, F e ⟨w, st'.book.world⟩) st := by
  rw [Pipeline.ends_drain]
  have hturns : ((p.turn source spec.stream allowance).untilSome allowance).Ends
      (fun _ s => s.buffer.pending = [] ∧ D s.extraction.worker ∧
        J [] s.buffer.pending s.extraction)
      (fun e s => F e s.extraction) (p.atStart spec st) := by
    refine Call.ends_untilSome (I := fun s : Progress ω => J [] s.buffer.pending s.extraction)
      (fun s hs => ?_) (fun s hs => h.unfinished _ _ hs) allowance hs
    refine (h.ends_turn hs).imp fun last s' hs' => ?_
    cases last with
    | none => exact hs'.1
    | some _ => exact ⟨(hs'.2 rfl).1, (hs'.2 rfl).2, hs'.1⟩
  refine hturns.mono (fun _ s hs => ?_) fun e s hs => ⟨rfl, s.extraction.worker, hs⟩
  obtain ⟨hpending, hdone, hs⟩ := hs
  rw [hpending] at hs
  exact ⟨rfl, hdone, hs⟩

end DrainRule

section

variable {p : Pipeline ω ρ} {source : Source ω} {allowance : Nat} {J : Extraction ω → Prop}

/-- What turns and batches keep is kept whatever becomes of the records. -/
theorem DrainRule.of_turns {stream : String}
    (hturn : ∀ x page x', J x → Extraction.Turns source p.decode x page x' → J x')
    (hwrite : ∀ batch x result world, J x → p.loader.write batch x.world = (.ok result, world) →
      J { x with world }) :
    p.DrainRule source stream allowance (fun _ _ x => J x)
      (fun w => ∃ reason, w.phase = .finished reason) (fun _ _ => True) where
  page placed x hx := by
    refine (Extraction.ends_nextPage_kept (F := fun _ => True) hturn (fun _ _ _ _ => trivial)
      (fun _ _ => trivial) allowance hx).imp fun page x' h => ?_
    obtain ⟨hx', y, -, hlast⟩ := h
    refine ⟨hx', ?_⟩
    rintro reason rfl
    exact hlast.finished
  place record hand placed entry x hx _ := hx
  refuse record hand placed e x hx _ := trivial
  write hand batch placed x hx := by
    rw [Call.ends_iff]
    refine ⟨fun result world h => ?_, fun _ _ _ => trivial, fun _ _ => trivial⟩
    split
    · exact hwrite batch x result world hx h
    · trivial
  unfinished placed x hx := trivial

/-- What turns and batches keep holds of a drained worker, which has finished its scan. -/
theorem ends_drain_kept {spec : WorkerSpec} {st : PassState ω}
    (hturn : ∀ x page x', J x → Extraction.Turns source p.decode x page x' → J x')
    (hwrite : ∀ batch x result world, J x → p.loader.write batch x.world = (.ok result, world) →
      J { x with world })
    (hstart : J ⟨p.workerOf spec st.book.cursors, st.book.world⟩) :
    (p.drain source spec allowance).Ends
      (fun w st' => st'.book.cursors = st.book.cursors ∧ (∃ reason, w.phase = .finished reason) ∧
        J ⟨w, st'.book.world⟩)
      (fun _ st' => st'.book.cursors = st.book.cursors) st := by
  have hrule : p.DrainRule source spec.stream allowance (fun _ _ x => J x)
      (fun w => ∃ reason, w.phase = .finished reason) (fun _ _ => True) := .of_turns hturn hwrite
  exact (hrule.ends_drain hstart).mono (fun _ _ h => h) fun _ _ h => h.1

end

end Pipeline

end CatalogSync
