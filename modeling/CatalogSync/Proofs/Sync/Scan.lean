import CatalogSync.Proofs.Extract.Steps
import CatalogSync.Proofs.Sync.Contract

/-!
# A scan and its snapshot

Under the contract of its source a worker reads one snapshot: the rows it was given and the rows
that are left are those of the scan, and its cursor stands before whatever is stamped later than the
snapshot. What it yields are the records of the films behind its fresh rows.
-/

namespace CatalogSync

/-- Where a worker stands in its scan, after the rows it was given. -/
inductive Stage (w : Worker) (snapshot : Catalog) :
    List ChangeRow → WorkerPhase → ScanState → Prop where
  | idle {scan} : Stage w snapshot [] .idle scan
  | opened : Stage w snapshot [] .scanning (.opened w.spec.selection w.start w.root)
  | reading {seen rest} (hscan : snapshot.IsScan w.spec.selection w.start w.root (seen ++ rest)) :
    Stage w snapshot seen .scanning (.reading snapshot rest)
  | finished {seen reason scan} (hscan : snapshot.IsScan w.spec.selection w.start w.root seen) :
    Stage w snapshot seen (.finished reason) scan

/-- A worker in the middle of its scan. Before the first rows are read, any earlier state of the
catalog may stand for the snapshot. -/
structure Scanning {ω : Type} (v : View ω) (w : Worker) (snapshot : Catalog)
    (seen : List ChangeRow) (x : Extraction ω) : Prop where
  same : w.IsSame x.worker
  edited : snapshot.Edited (v.catalog x.world)
  behind : snapshot.Behind x.worker.cursor
  counted : x.worker.rowsSeen = seen.length
  stage : Stage w snapshot seen x.worker.phase (v.scan x.world)

/-- The catalog was in such a state since the snapshot. -/
def View.Saw {ω : Type} (v : View ω) (snapshot : Catalog) (world : ω) (P : Catalog → Prop) : Prop :=
  ∃ c, snapshot.Edited c ∧ c.Edited (v.catalog world) ∧ P c

theorem View.Saw.edited {ω : Type} {v : View ω} {snapshot : Catalog} {world world' : ω}
    {P : Catalog → Prop} (h : v.Saw snapshot world P)
    (hedited : (v.catalog world).Edited (v.catalog world')) : v.Saw snapshot world' P := by
  obtain ⟨c, hbefore, hafter, hc⟩ := h
  exact ⟨c, hbefore, hafter.trans hedited, hc⟩

/-- What a worker yields for some rows: records read since the snapshot, of every film behind a
fresh row among them. -/
structure View.Yields {ω : Type} (v : View ω) (w : Worker) (snapshot : Catalog)
    (rows : List ChangeRow) (world : ω) (records : List FilmRecord) : Prop where
  none : rows = [] → records = []
  seen : ∀ record ∈ records, v.Saw snapshot world (·.filmRecord? record.id = some record)
  found : ∀ r ∈ rows, w.start < r.cursor → ∃ record ∈ records, record.id = r.rootId

theorem Catalog.Behind.raise {c : Catalog} {w : Worker} {cursor : Cursor} (hw : c.Behind w.cursor)
    (hcursor : c.Behind cursor) : c.Behind (w.raise cursor).cursor := by
  unfold Worker.raise
  split
  · exact hcursor
  · exact hw

variable {ω : Type} {v : View ω} {source : Source ω} {w : Worker} {x : Extraction ω} {w₀ : ω}
  {snapshot : Catalog} {seen rest : List ChangeRow}

theorem Stage.isScan (h : Stage w snapshot seen .scanning (.reading snapshot rest)) :
    snapshot.IsScan w.spec.selection w.start w.root (seen ++ rest) := by
  cases h
  assumption

/-- Whatever is asked, nothing is stored. -/
theorem Source.KeepsContract.ends_ask (h : source.KeepsContract v) (hw : v.Steady w₀ x.world)
    {c : SourceCall} {A : c.Answer → Extraction ω → Prop}
    (hA : ∀ a world, source.ask c x.world = (.ok a, world) → v.Steady x.world world →
      v.Steady w₀ world → A a { x with world }) :
    (Extraction.ask source c).Ends A (fun _ x' => v.Steady w₀ x'.world) x := by
  have hsteady := h.steady c x.world
  rw [Extraction.ends_ask, Call.ends_iff]
  refine ⟨fun a world hask => ?_, fun e world hask => ?_, fun world hask => ?_⟩
  all_goals rw [hask] at hsteady
  · exact hA a world hask hsteady (hw.trans hsteady)
  · exact hw.trans hsteady
  · exact hw.trans hsteady

namespace Scanning

/-- A worker that has no row yet takes the snapshot of the scan that it opens. -/
theorem openScan (hsource : source.KeepsContract v) (hx : Scanning v w snapshot seen x)
    (hphase : x.worker.phase = .idle) {world : ω}
    (hask : source.ask (.openScan x.worker.spec.selection x.worker.start x.worker.root) x.world =
      (.ok (), world)) (hsteady : v.Steady x.world world) :
    seen = [] ∧ ∃ snapshot', snapshot.Edited snapshot' ∧
      Scanning v w snapshot' [] ⟨{ x.worker with phase := .scanning }, world⟩ := by
  obtain ⟨hsame, hedited, hbehind, hcounted, hstage⟩ := hx
  rw [hphase] at hstage
  obtain rfl : seen = [] := by cases hstage; rfl
  rw [hsame.spec, hsame.start, hsame.root] at hask
  have hsame' : w.IsSame { x.worker with phase := .scanning } :=
    hsame.trans ⟨rfl, rfl, rfl, rfl, rfl⟩
  refine ⟨rfl, ?_⟩
  rcases hsource.openScan _ _ _ _ _ hask with hscan | ⟨snapshot', rows, hreads, hscan⟩
  · refine ⟨snapshot, .refl, hsame', hedited.trans hsteady.edited, hbehind, hcounted, ?_⟩
    rw [hscan]
    exact .opened
  · have hlater := hedited.trans hreads.before
    refine ⟨snapshot', hlater, hsame', hreads.after, hbehind.edited hlater, hcounted, ?_⟩
    rw [hscan]
    exact .reading hreads.isScan

/-- The rows of a page are the next of the scan, and a short page is the last. -/
theorem fetch (hsource : source.KeepsContract v) (hx : Scanning v w snapshot seen x)
    (hphase : x.worker.phase = .scanning) {rows : List ChangeRow} {world : ω}
    (hask : source.ask (.fetch x.worker.pageSize) x.world = (.ok rows, world))
    (hsteady : v.Steady x.world world) :
    ∃ snapshot' rest, snapshot.Edited snapshot' ∧ (seen = [] ∨ snapshot' = snapshot) ∧
      Scanning v w snapshot' (seen ++ rows)
        ⟨{ x.worker with rowsSeen := x.worker.rowsSeen + rows.length }, world⟩ ∧
      v.scan world = .reading snapshot' rest ∧ (rows.length < x.worker.pageSize → rest = []) := by
  obtain ⟨hsame, hedited, hbehind, hcounted, hstage⟩ := hx
  have hsame' : w.IsSame { x.worker with rowsSeen := x.worker.rowsSeen + rows.length } :=
    hsame.trans ⟨rfl, rfl, rfl, rfl, rfl⟩
  have hcounted' : x.worker.rowsSeen + rows.length = (seen ++ rows).length := by simp [hcounted]
  have hshort (l : List ChangeRow) (h : (l.take x.worker.pageSize).length < x.worker.pageSize) :
      l.drop x.worker.pageSize = [] := by
    simp at h ⊢
    omega
  have hfetch := hsource.fetch _ _ _ _ hask
  rw [hphase] at hstage
  generalize hscan : v.scan x.world = scan at hfetch hstage
  cases hstage with
  | opened =>
    obtain ⟨snapshot', all, hreads, rfl, hscan'⟩ := hfetch
    have hlater := hedited.trans hreads.before
    refine ⟨snapshot', _, hlater, .inl rfl, ⟨hsame', hreads.after, hbehind.edited hlater, hcounted',
      ?_⟩, hscan', hshort all⟩
    simp only [hphase, hscan']
    refine .reading ?_
    rw [List.nil_append, List.take_append_drop]
    exact hreads.isScan
  | @reading _ left hisScan =>
    obtain ⟨rfl, hscan'⟩ := hfetch
    refine ⟨snapshot, _, .refl, .inr rfl, ⟨hsame', hedited.trans hsteady.edited, hbehind, hcounted',
      ?_⟩, hscan', hshort left⟩
    simp only [hphase, hscan']
    refine .reading ?_
    rw [List.append_assoc, List.take_append_drop]
    exact hisScan

/-- A worker that keeps its stream, its rows and its scan may change otherwise. -/
theorem congr (hx : Scanning v w snapshot seen x) {x' : Extraction ω}
    (hsame : x.worker.IsSame x'.worker) (hedited : (v.catalog x.world).Edited (v.catalog x'.world))
    (hbehind : snapshot.Behind x'.worker.cursor) (hrows : x'.worker.rowsSeen = x.worker.rowsSeen)
    (hstage : Stage w snapshot seen x'.worker.phase (v.scan x'.world)) :
    Scanning v w snapshot seen x' where
  same := hx.same.trans hsame
  edited := hx.edited.trans hedited
  behind := hbehind
  counted := hrows.trans hx.counted
  stage := hstage

/-- The worker closes a scan of which nothing is left, and may then be called finished. -/
theorem ends_close (hsource : source.KeepsContract v) (hw : v.Steady w₀ x.world)
    (hx : Scanning v w snapshot seen x) (hphase : x.worker.phase = .scanning)
    (hscan : v.scan x.world = .reading snapshot []) :
    (Extraction.ask source .closeScan).Ends
      (fun _ x' => v.Steady x.world x'.world ∧ ∀ reason, Scanning v w snapshot seen
        { x' with worker := { x'.worker with phase := .finished reason } })
      (fun _ x' => v.Steady w₀ x'.world) x := by
  refine hsource.ends_ask hw fun _ world _ hsteady _ => ⟨hsteady, fun reason => ?_⟩
  refine hx.congr ⟨rfl, rfl, rfl, rfl, rfl⟩ hsteady.edited hx.behind rfl (.finished ?_)
  have hstage := hx.stage
  rw [hphase, hscan] at hstage
  simpa using hstage.isScan

/-- The probe of an empty scan moves the worker to the greatest row of the snapshot. -/
theorem ends_probe (hsource : source.KeepsContract v) (hw : v.Steady w₀ x.world)
    (hx : Scanning v w snapshot seen x) (hscan : v.scan x.world = .reading snapshot []) :
    (Extraction.probe source).Ends
      (fun _ x' => v.Steady w₀ x'.world ∧ Scanning v w snapshot seen x' ∧
        x'.worker.phase = x.worker.phase ∧ v.scan x'.world = .reading snapshot [])
      (fun _ x' => v.Steady w₀ x'.world) x := by
  simp only [Extraction.probe, Call.ends_bind, Extraction.ends_worker?]
  refine hsource.ends_ask hw fun greatest world hask hsteady hw' => ?_
  obtain ⟨hscan', hgreatest⟩ := hsource.probe _ _ _ _ hask
  have hstage := hx.stage
  cases greatest with
  | none =>
    refine Call.ends_pure.2 ⟨hw', ?_, rfl, hscan'.trans hscan⟩
    refine hx.congr (.refl _) hsteady.edited hx.behind rfl ?_
    rwa [hscan']
  | some greatest =>
    obtain ⟨⟨t, id, ht, rfl⟩, -⟩ := hgreatest _ _ hscan
    refine Extraction.ends_update.2 ⟨hw', ?_, Worker.raise_phase .., hscan'.trans hscan⟩
    refine hx.congr (x.worker.isSame_raise _) hsteady.edited ?_ (Worker.raise_rowsSeen ..) ?_
    · exact hx.behind.raise (Catalog.behind_ofRow ht)
    · rwa [Worker.raise_phase, hscan']

theorem ends_finish (hsource : source.KeepsContract v) (hw : v.Steady w₀ x.world)
    (hx : Scanning v w snapshot seen x) (hphase : x.worker.phase = .scanning)
    (hscan : v.scan x.world = .reading snapshot []) :
    (Extraction.finish source).Ends
      (fun reason x' => v.Steady w₀ x'.world ∧ Scanning v w snapshot seen x' ∧
        x'.worker.phase = .finished reason)
      (fun _ x' => v.Steady w₀ x'.world) x := by
  simp only [Extraction.finish, Call.ends_bind, Extraction.ends_worker?]
  split
  all_goals
    simp only [Call.ends_bind, Extraction.ends_worker?, Extraction.ends_update, Call.ends_pure,
      and_true]
  · refine (hx.ends_probe hsource hw hscan).imp fun _ y hy => ?_
    obtain ⟨hw', hy, hphase', hscan'⟩ := hy
    exact (hy.ends_close hsource hw' (hphase'.trans hphase) hscan').imp fun _ _ hz =>
      ⟨hw'.trans hz.1, hz.2 _⟩
  · exact (hx.ends_close hsource hw hphase hscan).imp fun _ _ hz => ⟨hw.trans hz.1, hz.2 _⟩

/-- The records of some rows of the scan are those of their films. -/
theorem ends_recordsOf (hsource : source.KeepsContract v) (haggregate : w.aggregate = .filmWork)
    (hselection : w.spec.selection ∈ filmSelections) (hw : v.Steady w₀ x.world)
    (hx : Scanning v w snapshot seen x) (hphase : x.worker.phase = .scanning)
    (hscan : v.scan x.world = .reading snapshot rest) {fresh : List ChangeRow}
    (hfresh : ∀ r ∈ fresh, r ∈ seen) :
    (Extraction.recordsOf source FilmRecord.decode fresh).Ends
      (fun records x' => v.Steady w₀ x'.world ∧ x'.worker = x.worker ∧
        Scanning v w snapshot seen x' ∧ v.scan x'.world = .reading snapshot rest ∧
        (∀ record ∈ records, v.Saw snapshot x'.world (·.filmRecord? record.id = some record)) ∧
        ∀ r ∈ fresh, ∃ record ∈ records, record.id = r.rootId)
      (fun _ x' => v.Steady w₀ x'.world) x := by
  simp only [Extraction.recordsOf, Call.ends_bind, Extraction.ends_worker?]
  rw [hx.same.aggregate, haggregate]
  refine hsource.ends_ask hw fun docs world hask hsteady hw' => ?_
  obtain ⟨hscan', hdocs⟩ := hsource.enrich _ _ _ _ hask
  obtain ⟨c, hbefore, hafter, hdocs⟩ := hdocs _ _ hscan hx.edited
  have hstage := hx.stage
  cases hrecords : docs.mapM FilmRecord.decode with
  | error e => exact Call.ends_fail.2 hw'
  | ok records =>
    obtain ⟨hsound, hcomplete⟩ := hdocs.records hrecords
    refine Call.ends_pure.2 ⟨hw', rfl, ?_, hscan'.trans hscan, fun record hrecord => ?_,
      fun r hr => ?_⟩
    · refine hx.congr (.refl _) hsteady.edited hx.behind rfl ?_
      rwa [hscan']
    · exact ⟨c, hbefore, hafter, hsound record hrecord⟩
    · rw [hphase, hscan] at hstage
      have hin := (hstage.isScan.mem_iff r).1 (List.mem_append_left _ (hfresh r hr))
      refine hcomplete _ (mem_distinct.2 (List.mem_map_of_mem hr)) (hbefore.isSome ?_)
      exact hin.1.isSome (hx.same.spec ▸ hselection)

/-- Yielding leaves the worker at a row of the scan, or where it stood. -/
theorem yielding (hx : Scanning v w snapshot seen x) (hphase : x.worker.phase = .scanning)
    (hscan : v.scan x.world = .reading snapshot rest) {fresh : List ChangeRow}
    (hfresh : ∀ r ∈ fresh, r ∈ seen) (records : Nat) :
    Scanning v w snapshot seen { x with worker := x.worker.yielding fresh records } := by
  have hstage := hx.stage
  refine hx.congr (x.worker.isSame_yielding ..) .refl ?_ (Worker.yielding_rowsSeen ..) ?_
  · unfold Worker.yielding
    cases hlast : fresh.getLast? with
    | none => exact hx.behind
    | some last =>
      rw [hphase, hscan] at hstage
      have hin := hfresh last (List.mem_of_getLast? hlast)
      have hjoined := ((hstage.isScan.mem_iff last).1 (List.mem_append_left _ hin)).1
      exact hx.behind.raise (Catalog.behind_ofRow hjoined.1)
  · rwa [Worker.yielding_phase]

theorem ends_emit (hsource : source.KeepsContract v) (haggregate : w.aggregate = .filmWork)
    (hselection : w.spec.selection ∈ filmSelections) (hw : v.Steady w₀ x.world)
    (hx : Scanning v w snapshot seen x) (hphase : x.worker.phase = .scanning)
    (hscan : v.scan x.world = .reading snapshot rest) {fresh : List ChangeRow}
    (hfresh : ∀ r ∈ fresh, r ∈ seen) {short : Bool} (hshort : short = true → rest = []) :
    (Extraction.emit source FilmRecord.decode fresh short).Ends
      (fun records x' => v.Steady w₀ x'.world ∧ Scanning v w snapshot seen x' ∧
        (∀ record ∈ records, v.Saw snapshot x'.world (·.filmRecord? record.id = some record)) ∧
        ∀ r ∈ fresh, ∃ record ∈ records, record.id = r.rootId)
      (fun _ x' => v.Steady w₀ x'.world) x := by
  rw [Extraction.emit_eq]
  simp only [Call.ends_bind, Extraction.ends_update]
  refine (hx.ends_recordsOf hsource haggregate hselection hw hphase hscan hfresh).imp
    fun records y hy => ?_
  obtain ⟨hw', hworker, hy, hscan', hsound, hcomplete⟩ := hy
  have hphase' : y.worker.phase = .scanning := hworker ▸ hphase
  let z : Extraction ω := { y with worker := y.worker.yielding fresh records.length }
  have hz : Scanning v w snapshot seen z := hy.yielding hphase' hscan' hfresh records.length
  cases short with
  | false => exact ⟨hw', hz, hsound, hcomplete⟩
  | true =>
    obtain rfl := hshort rfl
    simp only [if_true, Call.ends_bind, Extraction.ends_update, Call.ends_pure]
    have hphase : z.worker.phase = .scanning := (Worker.yielding_phase ..).trans hphase'
    refine (ends_close (x := z) hsource hw' hz hphase hscan').imp fun _ x' hx' => ?_
    obtain ⟨hsteady, hfinished⟩ := hx'
    exact ⟨hw'.trans hsteady, hfinished _,
      fun record hrecord => (hsound record hrecord).edited hsteady.edited, hcomplete⟩

/-- A turn goes on with the scan: it is given some rows more, and yields their films. -/
theorem ends_turn (hsource : source.KeepsContract v) (haggregate : w.aggregate = .filmWork)
    (hselection : w.spec.selection ∈ filmSelections) (hsize : 0 < w.pageSize)
    (hw : v.Steady w₀ x.world) (hx : Scanning v w snapshot seen x) :
    (Extraction.turn source FilmRecord.decode).Ends
      (fun page x' => v.Steady w₀ x'.world ∧ ∃ snapshot' rows, snapshot.Edited snapshot' ∧
        (seen = [] ∨ snapshot' = snapshot) ∧ Scanning v w snapshot' (seen ++ rows) x' ∧
        v.Yields w snapshot' rows x'.world (page.elim [] Page.toList) ∧
        ∀ reason, page = some (.done reason) → x'.worker.phase = .finished reason)
      (fun _ x' => v.Steady w₀ x'.world) x := by
  simp only [Extraction.turn, Call.ends_bind, Extraction.ends_worker?]
  cases hphase : x.worker.phase with
  | finished reason =>
    refine Call.ends_pure.2 ⟨hw, snapshot, [], .refl, .inr rfl, by simpa using hx,
      ⟨by simp [Page.toList], by simp [Page.toList], by simp⟩, ?_⟩
    rintro _ ⟨⟩
    exact hphase
  | idle =>
    simp only [Call.ends_bind, Extraction.ends_update, Call.ends_pure]
    refine hsource.ends_ask hw fun _ world hask hsteady hw' => ?_
    obtain ⟨rfl, snapshot', hlater, hx'⟩ := hx.openScan hsource hphase hask hsteady
    exact ⟨hw', snapshot', [], hlater, .inl rfl, hx', ⟨by simp, by simp, by simp⟩, by simp⟩
  | scanning =>
    simp only [Call.ends_bind, Extraction.ends_update]
    refine hsource.ends_ask hw fun rows world hask hsteady hw' => ?_
    obtain ⟨snapshot', rest, hlater, hkept, hx', hscan', hshort⟩ :=
      hx.fetch hsource hphase hask hsteady
    have hfresh (r : ChangeRow) : r ∈ x.worker.fresh rows ↔ r ∈ rows ∧ w.start < r.cursor := by
      simp [Worker.fresh, hx.same.start]
    let y : Extraction ω :=
      ⟨{ x.worker with rowsSeen := x.worker.rowsSeen + rows.length }, world⟩
    change Call.Ends _ _ _ y
    split
    · next hnone =>
      have hold : ∀ r ∈ rows, ¬w.start < r.cursor := by
        intro r hr hlt
        have hmem := (hfresh r).2 ⟨hr, hlt⟩
        rw [hnone] at hmem
        cases hmem
      split
      · refine ⟨hw', snapshot', rows, hlater, hkept, hx', ⟨by simp, by simp, fun r hr hlt => ?_⟩,
          by simp⟩
        exact absurd hlt (hold r hr)
      · next hlast =>
        obtain rfl : rest = [] := by
          refine hshort ?_
          rw [hx.same.pageSize]
          by_cases hrows : rows = []
          · simpa [hrows] using hsize
          · simpa [hrows, hx.same.pageSize] using hlast
        rw [Call.ends_bind]
        refine (ends_finish (x := y) hsource hw' hx' hphase hscan').imp fun reason x' h => ?_
        obtain ⟨hw'', hx'', hphase'⟩ := h
        refine Call.ends_pure.2 ⟨hw'', snapshot', rows, hlater, hkept, hx'',
          ⟨by simp [Page.toList], by simp [Page.toList], fun r hr hlt => absurd hlt (hold r hr)⟩,
          ?_⟩
        rintro _ ⟨⟩
        exact hphase'
    · next hsome =>
      have hmem : ∀ r ∈ x.worker.fresh rows, r ∈ seen ++ rows :=
        fun r hr => List.mem_append_right _ ((hfresh r).1 hr).1
      rw [Call.ends_bind]
      refine (ends_emit (x := y) hsource haggregate hselection hw' hx' hphase hscan' hmem
        fun h => hshort (of_decide_eq_true h)).imp fun records x' h => ?_
      obtain ⟨hw'', hx'', hobserved, hfound⟩ := h
      refine Call.ends_pure.2 ⟨hw'', snapshot', rows, hlater, hkept, hx'', ⟨fun hnil => ?_,
        hobserved, fun r hr hlt => hfound r ((hfresh r).2 ⟨hr, hlt⟩)⟩, by simp⟩
      exact absurd (by simp [hnil, Worker.fresh]) hsome

end Scanning

end CatalogSync
