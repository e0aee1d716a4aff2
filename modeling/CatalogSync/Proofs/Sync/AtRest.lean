import CatalogSync.Proofs.Pass.Commit
import CatalogSync.Proofs.Sync.CaughtUp
import CatalogSync.Proofs.Sync.Drain

/-!
# Workers at rest

A worker whose stream is caught up looks through its scan and finds nothing fresh. It asks for no
aggregate, writes nothing and does not move, however it ends.
-/

namespace CatalogSync

namespace SourceCall

/-- The question belongs to a scan, from its opening to its close. -/
def Scans : SourceCall → Prop
  | enrich .. => False
  | ping => False
  | _ => True

theorem Ends.scans {c : SourceCall} (h : c.Ends) : c.Scans := by
  cases c with
  | enrich aggregate ids => exact absurd h id
  | ping => exact absurd h id
  | _ => trivial

end SourceCall

variable {ω ρ : Type} {v : View ω} {source : Source ω} {c : Catalog} {w : Worker} {world₀ : ω}
  {x x' : Extraction ω} {decode : Decoder ρ} {page : Option (Page ρ)}

/-- What the scan of a stream that is caught up holds is not fresh. -/
theorem ScansStill.fresh_eq_nil (hsource : source.KeepsContract v)
    (hstill : ∀ world, v.catalog world = c) (hsize : 0 < w.pageSize) {seen rows : List ChangeRow}
    (hx : ScansStill v c w seen x) (hphase : x.worker.phase = .scanning) {world : ω}
    (hfetch : source.ask (.fetch x.worker.pageSize) x.world = (.ok rows, world))
    (hcaught : c.CaughtUp w.spec.selection w.start) : x.worker.fresh rows = [] := by
  obtain ⟨rest, -, hisScan, -⟩ := hx.fetch hsource hstill hsize hphase hfetch
  rw [Worker.fresh, List.filter_eq_nil_iff]
  intro r hr hfresh
  have hin : c.InScan w.spec.selection w.start w.root r := (hisScan.mem_iff r).1 (by simp [hr])
  rw [hx.same.start] at hfresh
  exact (of_decide_eq_true hfresh).not_ge (hcaught.joined r hin.1)

/-- A worker in its scan that stands where it started, having asked for nothing but its scan since
some moment. -/
structure Rests (source : Source ω) (v : View ω) (c : Catalog) (w : Worker) (world₀ : ω)
    (x : Extraction ω) : Prop where
  scans : ∃ seen, ScansStill v c w seen x
  stands : x.worker.cursor = w.start
  asks : source.Asks SourceCall.Scans world₀ x.world

namespace Rests

/-- A table whose stream is caught up has no row further on, if the scan has none at all. -/
theorem told (hcaught : c.CaughtUp w.spec.selection w.start) (hunhidden : c.Unhidden w.root)
    (hscan : c.IsScan w.spec.selection w.start w.root []) {u : Worker}
    (hstands : u.cursor = w.start)
    {greatest : Option Cursor} (hgreatest : c.IsGreatest w.spec.selection.entity greatest) :
    (u.told greatest).cursor = w.start := by
  cases greatest with
  | none => exact hstands
  | some g =>
    obtain ⟨⟨t, id, ht, rfl⟩, -⟩ := hgreatest
    have hle : Cursor.ofRow t id ≤ w.start := by
      rcases hcaught.table with ⟨r, hr, hstart⟩ | hall
      · have hin := (hscan.mem_iff r).2 (hunhidden.inScan hr hstart)
        cases hin
      · exact hall t id ht
    rcases u.cursor_raise (.ofRow t id) with hstood | ⟨hlt, -⟩
    · exact hstood.trans hstands
    · rw [hstands] at hlt
      exact absurd hle hlt.not_ge

/-- Every turn of a worker over a stream that is caught up leaves it at rest, and yields no
record. -/
theorem turn (hsource : source.KeepsContract v) (hstill : ∀ world, v.catalog world = c)
    (haggregate : w.aggregate = .filmWork) (hsize : 0 < w.pageSize)
    (hcaught : c.CaughtUp w.spec.selection w.start) (hunhidden : c.Unhidden w.root)
    (hx : Rests source v c w world₀ x) (hturn : Extraction.Turns source decode x page x') :
    Rests source v c w world₀ x' ∧ ∀ records, page ≠ some (.records records) := by
  obtain ⟨seen, hseen⟩ := hx.scans
  obtain ⟨more, hscans⟩ := hseen.turn hsource hstill haggregate hsize hturn
  have hquiet {rows : List ChangeRow} {world : ω} (hphase : x.worker.phase = .scanning)
      (hfetch : source.ask (.fetch x.worker.pageSize) x.world = (.ok rows, world)) :=
    hseen.fresh_eq_nil hsource hstill hsize hphase hfetch hcaught
  cases hturn with
  | done hdone => exact ⟨hx, by simp⟩
  | opened hphase hopen =>
    have hasked := hx.asks.tail (Source.asked_of_eq trivial hopen)
    exact ⟨⟨⟨_, hscans⟩, hx.stands, hasked⟩, by simp⟩
  | passed hphase hfetch hstale hrows hfull =>
    have hasked := hx.asks.tail (Source.asked_of_eq trivial hfetch)
    exact ⟨⟨⟨_, hscans⟩, hx.stands, hasked⟩, by simp⟩
  | @ended rows world world' world'' u hphase hfetch hstale hlast hlooks hclose =>
    obtain ⟨rest, hscan, hisScan, hend⟩ := hseen.fetch hsource hstill hsize hphase hfetch
    obtain rfl := hend hlast
    rw [List.append_nil] at hisScan
    have hfetched := hx.asks.tail (Source.asked_of_eq trivial hfetch)
    refine ⟨⟨⟨_, hscans⟩, ?_, ?_⟩, by simp⟩
    · cases hlooks with
      | past hnot => exact hx.stands
      | up hempty hprobes hprobe =>
        have hcounted : (x.worker.counting rows).rowsSeen = (seen ++ rows).length := by
          rw [List.length_append, ← hseen.counted]
          rfl
        have hnil := List.eq_nil_of_length_eq_zero (hcounted.symm.trans hempty)
        rw [hnil] at hisScan
        have hgreatest := (hsource.probe _ _ _ _ hprobe).2 c [] hscan
        have hspec : (x.worker.counting rows).spec = w.spec := hseen.same.spec
        rw [hspec] at hgreatest
        exact told (u := x.worker.counting rows) hcaught hunhidden hisScan hx.stands hgreatest
    · have hlooked : source.Asks SourceCall.Scans world₀ world' := by
        cases hlooks with
        | past hnot => exact hfetched
        | up hempty hprobes hprobe => exact hfetched.tail (Source.asked_of_eq trivial hprobe)
      exact hlooked.tail (Source.asked_of_eq trivial hclose)
  | yielded hphase hfetch hfresh hfull hrebuilds => exact absurd (hquiet hphase hfetch) hfresh
  | yieldedLast hphase hfetch hfresh hlast hrebuilds hclose =>
    exact absurd (hquiet hphase hfetch) hfresh

/-- A turn that fails has asked for nothing but the scan either. -/
theorem stumble (hsource : source.KeepsContract v) (hstill : ∀ world, v.catalog world = c)
    (hsize : 0 < w.pageSize) (hcaught : c.CaughtUp w.spec.selection w.start)
    (hx : Rests source v c w world₀ x) (hstumble : Extraction.Stumbles source x x') :
    source.Asks SourceCall.Scans world₀ x'.world := by
  obtain ⟨seen, hseen⟩ := hx.scans
  cases hstumble with
  | opening hphase hopen => exact hx.asks.tail (Source.asked_of_eq trivial hopen)
  | fetching hphase hfetch => exact hx.asks.tail (Source.asked_of_eq trivial hfetch)
  | ending hphase hfetch hstale hasks =>
    have hfetched := hx.asks.tail (Source.asked_of_eq trivial hfetch)
    exact hfetched.trans (hasks.mono fun _ => SourceCall.Ends.scans)
  | yielding hphase hfetch hfresh hasks =>
    exact absurd (hseen.fresh_eq_nil hsource hstill hsize hphase hfetch hcaught) hfresh

/-- The first page of a worker over a stream that is caught up is its last. -/
theorem ends_nextPage (hsource : source.KeepsContract v) (hstill : ∀ world, v.catalog world = c)
    (haggregate : w.aggregate = .filmWork) (hsize : 0 < w.pageSize)
    (hcaught : c.CaughtUp w.spec.selection w.start) (hunhidden : c.Unhidden w.root)
    (hx : Rests source v c w world₀ x) (decode : Decoder ρ) (allowance : Nat) :
    (Extraction.nextPage source decode allowance).Ends
      (fun page x' => (∃ reason, page = .done reason) ∧ Rests source v c w world₀ x')
      (fun _ x' => source.Asks SourceCall.Scans world₀ x'.world) x := by
  refine (Extraction.ends_nextPage_kept (F := fun x => source.Asks SourceCall.Scans world₀ x.world)
    (fun y page z hy hturn => ?_) (fun y z hy hz => ?_) (fun y hy => hy.asks) allowance hx).imp
    fun page x' h => ?_
  · exact (hy.turn hsource hstill haggregate hsize hcaught hunhidden hturn).1
  · exact hy.stumble hsource hstill hsize hcaught hz
  · obtain ⟨hx', y, hy, hturn⟩ := h
    refine ⟨?_, hx'⟩
    cases page with
    | done reason => exact ⟨reason, rfl⟩
    | records records =>
      have hnone := (hy.turn hsource hstill haggregate hsize hcaught hunhidden hturn).2 records
      exact absurd rfl hnone

end Rests

namespace Pipeline

/-- Between two states of a pass nothing happened but questions about scans. -/
structure Idles (source : Source ω) (st st' : PassState ω) : Prop where
  cursors : st'.book.cursors = st.book.cursors
  report : st'.report = st.report
  asks : source.Asks SourceCall.Scans st.book.world st'.book.world

theorem Idles.refl (source : Source ω) (st : PassState ω) : Idles source st st := ⟨rfl, rfl, .refl⟩

theorem Idles.trans {st st' st'' : PassState ω} (h : Idles source st st')
    (h' : Idles source st' st'') : Idles source st st'' where
  cursors := h'.cursors.trans h.cursors
  report := h'.report.trans h.report
  asks := h.asks.trans h'.asks

/-- A worker that has not begun scans a catalog that is not edited. -/
theorem scansStill_workerOf (p : Pipeline ω ρ) (v : View ω) (c : Catalog) (spec : WorkerSpec)
    (cursors : CursorMap) (world : ω) :
    ScansStill v c (p.workerOf spec cursors) [] ⟨p.workerOf spec cursors, world⟩ :=
  .of_idle v c rfl rfl rfl world

variable {name : String} {workers : List WorkerSpec} {loader : Loader ω} {store : Store ω}
  {pageSize allowance : Nat} {spec : WorkerSpec} {st : PassState ω}

/-- Draining a worker over a stream that is caught up does nothing but look through its scan. Its
first turn is the last, since no page has records. -/
theorem ends_drain_rests (hsource : source.KeepsContract v) (hstill : ∀ world, v.catalog world = c)
    (hcaught : c.CaughtUp spec.selection (st.book.position spec.stream))
    (hunhidden : c.Unhidden
      ((filmPipeline name workers loader pageSize).workerOf spec st.book.cursors).root) :
    ((filmPipeline name workers loader pageSize).drain source spec allowance).Ends
      (fun w st' => ¬w.HasAdvanced ∧ Idles source st st')
      (fun _ st' => Idles source st st') st := by
  let p := filmPipeline name workers loader pageSize
  let w := p.workerOf spec st.book.cursors
  have hsize : 0 < w.pageSize := Nat.lt_of_lt_of_le Nat.one_pos (Nat.le_max_right ..)
  have hw : Rests source v c w st.book.world ⟨w, st.book.world⟩ :=
    ⟨⟨[], scansStill_workerOf ..⟩, rfl, .refl⟩
  have hpage := hw.ends_nextPage hsource hstill rfl hsize hcaught hunhidden p.decode allowance
  rw [ends_drain]
  refine Call.ends_untilSome (I := fun s => s = p.atStart spec st) (fun s hs => ?_)
    (fun s hs => ?_) allowance rfl
  · subst hs
    simp only [Pipeline.turn, Pipeline.page, Call.ends_bind, Call.ends_within, Call.ends_mapError]
    refine hpage.mono (fun page x hx => ?_) fun _ x hx => ⟨rfl, rfl, hx⟩
    obtain ⟨⟨reason, rfl⟩, hx⟩ := hx
    obtain ⟨seen, hseen⟩ := hx.scans
    have hflush : (BatchBuffer.ofLimit p.loader.batchSize).flush.1 = none := rfl
    simp only [Call.ends_bind, ends_flush, atStart, hflush, loadSome, Call.ends_pure]
    refine ⟨fun hmoved => ?_, rfl, rfl, hx.asks⟩
    rw [Worker.HasAdvanced, hseen.same.start, hx.stands] at hmoved
    exact lt_irrefl _ hmoved
  · subst hs
    exact Idles.refl source st

/-- So a worker over a stream that is caught up commits nothing. -/
theorem ends_runGuarded_rests (hsource : source.KeepsContract v)
    (hstill : ∀ world, v.catalog world = c)
    (hcaught : c.CaughtUp spec.selection (st.book.position spec.stream))
    (hunhidden : c.Unhidden
      ((filmPipeline name workers loader pageSize).workerOf spec st.book.cursors).root) :
    ((filmPipeline name workers loader pageSize).runGuarded source store spec allowance).Ends
      (fun _ st' => Idles source st st') (fun _ st' => Idles source st st') st := by
  rw [ends_runGuarded, ends_runWorker]
  refine (ends_drain_rests hsource hstill hcaught hunhidden).mono (fun w st' h => ?_)
    fun e st' h => ?_
  · rw [if_neg h.1]
    exact h.2
  · split
    · exact ⟨h.cursors, h.report, h.asks.tail ⟨.closeScan, trivial, rfl⟩⟩
    · exact h

end Pipeline

end CatalogSync
