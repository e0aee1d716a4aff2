import CatalogSync.Proofs.Extract.Turns
import CatalogSync.Proofs.Pass.Rule
import CatalogSync.Proofs.Sync.Scan

/-!
# Streams that are caught up

A stream is caught up if none of its rows is behind its cursor, and a scan from there on has a row
or else the table has none later. Over a catalog that is not edited a worker that ends leaves its
stream caught up, unless the bound of its scan has hidden rows from it.
-/

namespace CatalogSync

/-- A row that is stamped before a cursor comes before it. -/
theorem ChangeRow.cursor_lt {r : ChangeRow} {c : Cursor} (h : r.timestamp < c.timestamp) :
    r.cursor < c :=
  (Cursor.lt_iff ..).2 (.inl h)

/-- The last of some rows of a scan is the furthest. -/
theorem cursor_le_getLast {rows : List ChangeRow} (h : rows.Pairwise fun a b => a.order b ≠ .gt)
    {last : ChangeRow} (hlast : rows.getLast? = some last) :
    ∀ r ∈ rows, r.cursor ≤ last.cursor := by
  obtain ⟨front, rfl⟩ := List.getLast?_eq_some_iff.1 hlast
  intro r hr
  rcases List.mem_append.1 hr with hr | hr
  · exact ChangeRow.cursor_le ((List.pairwise_append.1 h).2.2 r hr last (by simp))
  · rw [List.mem_singleton.1 hr]

namespace Catalog

variable {c : Catalog} {selection : Selection} {start cursor : Cursor} {root : Option Cursor}

/-- No row of the stream is behind the cursor, and the table is not ahead of it, unless a scan from
there on has a row. -/
structure CaughtUp (c : Catalog) (selection : Selection) (cursor : Cursor) : Prop where
  joined : ∀ r, c.Joined selection r → r.cursor ≤ cursor
  table : (∃ r, c.Joined selection r ∧ cursor.timestamp ≤ r.timestamp) ∨
    ∀ t id, c.stamp? selection.entity id = some t → Cursor.ofRow t id ≤ cursor

/-- The bound hides no film: none was changed after it. -/
def Unhidden (c : Catalog) (root : Option Cursor) : Prop :=
  ∀ bound, root = some bound → ∀ film t, c.stamp? .filmWork film = some t → t ≤ bound.timestamp

theorem unhidden_none (c : Catalog) : c.Unhidden none := by
  intro bound hnone
  cases hnone

/-- A scan that is bounded by a stream of films that is caught up hides nothing. -/
theorem CaughtUp.unhidden (h : c.CaughtUp (.root .filmWork) cursor) : c.Unhidden (some cursor) := by
  rintro _ ⟨⟩ film t ht
  exact Cursor.timestamp_le (h.joined ⟨film, t, film⟩ ⟨ht, rfl⟩)

theorem Unhidden.inScan (h : c.Unhidden root) {r : ChangeRow} (hr : c.Joined selection r)
    (hstart : start.timestamp ≤ r.timestamp) : c.InScan selection start root r :=
  ⟨hr, hstart, fun bound hbound film hfilm => h bound hbound r.rootId film hfilm⟩

end Catalog

/-- A worker in the middle of its scan of a catalog that is not edited, or at its end: it stands at
the furthest row it was given, where it started, or where it was told to after a scan without
rows. -/
structure ScansStill {ω : Type} (v : View ω) (c : Catalog) (w : Worker) (seen : List ChangeRow)
    (x : Extraction ω) : Prop where
  same : w.IsSame x.worker
  counted : x.worker.rowsSeen = seen.length
  stage : Stage w c seen x.worker.phase (v.scan x.world)
  start_le : w.start ≤ x.worker.cursor
  seen_le : ∀ r ∈ seen, r.cursor ≤ x.worker.cursor
  reached : x.worker.cursor = w.start ∨ (∃ r ∈ seen, r.cursor = x.worker.cursor) ∨
    seen = [] ∧ ∃ reason, x.worker.phase = .finished reason
  probed : ∀ reason, x.worker.phase = .finished reason → seen = [] → w.spec.probes = true →
    ∀ t id, c.stamp? w.spec.selection.entity id = some t → Cursor.ofRow t id ≤ x.worker.cursor

variable {ω ρ : Type} {v : View ω} {source : Source ω} {c : Catalog} {w : Worker}
  {x x' : Extraction ω} {seen rows rest : List ChangeRow} {decode : Decoder ρ}
  {page : Option (Page ρ)}

/-- A snapshot of a catalog that is not edited is the catalog. -/
theorem View.Reads.snapshot_eq (hstill : ∀ world, v.catalog world = c) {world world' : ω}
    {selection : Selection} {start : Cursor} {root : Option Cursor} {snapshot : Catalog}
    (h : v.Reads world world' selection start root snapshot rows) : snapshot = c := by
  have hbefore := h.before
  have hafter := h.after
  rw [hstill] at hbefore hafter
  exact hafter.antisymm hbefore

namespace ScansStill

/-- A worker that has not begun. -/
theorem of_idle (v : View ω) (c : Catalog) {w : Worker} (hphase : w.phase = .idle)
    (hrows : w.rowsSeen = 0) (hcursor : w.cursor = w.start) (world : ω) :
    ScansStill v c w [] ⟨w, world⟩ where
  same := .refl w
  counted := hrows
  stage := by
    simp only [hphase]
    exact .idle
  start_le := hcursor.ge
  seen_le := by simp
  reached := .inl hcursor
  probed reason hfinished := by
    rw [hphase] at hfinished
    cases hfinished

/-- A worker that is still scanning has nothing from the table. -/
theorem reached_of_scanning (hx : ScansStill v c w seen x) (hphase : x.worker.phase = .scanning) :
    x.worker.cursor = w.start ∨ ∃ r ∈ seen, r.cursor = x.worker.cursor := by
  rcases hx.reached with hstart | hseen | ⟨-, reason, hfinished⟩
  · exact .inl hstart
  · exact .inr hseen
  · rw [hphase] at hfinished
    cases hfinished

theorem openScan (hsource : source.KeepsContract v) (hstill : ∀ world, v.catalog world = c)
    (hx : ScansStill v c w seen x) (hphase : x.worker.phase = .idle) {world : ω}
    (hopen : source.ask (.openScan x.worker.spec.selection x.worker.start x.worker.root) x.world =
      (.ok (), world)) :
    seen = [] ∧ ScansStill v c w [] ⟨{ x.worker with phase := .scanning }, world⟩ := by
  have hstage := hx.stage
  rw [hphase] at hstage
  obtain rfl : seen = [] := by
    cases hstage
    rfl
  refine
    ⟨rfl, hx.same.trans ⟨rfl, rfl, rfl, rfl, rfl⟩, hx.counted, ?_, hx.start_le, by simp, ?_, ?_⟩
  · rw [hx.same.spec, hx.same.start, hx.same.root] at hopen
    rcases hsource.openScan _ _ _ _ _ hopen with hscan | ⟨snapshot, all, hreads, hscan⟩
    · rw [hscan]
      exact .opened
    · obtain rfl := hreads.snapshot_eq hstill
      rw [hscan]
      exact .reading hreads.isScan
  · rcases hx.reached with hstart | ⟨r, hr, -⟩ | ⟨-, reason, hfinished⟩
    · exact .inl hstart
    · cases hr
    · rw [hphase] at hfinished
      cases hfinished
  · intro reason hfinished
    cases hfinished

/-- A page holds the next rows of the scan, and a short one the last. -/
theorem fetch (hsource : source.KeepsContract v) (hstill : ∀ world, v.catalog world = c)
    (hsize : 0 < w.pageSize) (hx : ScansStill v c w seen x) (hphase : x.worker.phase = .scanning)
    {world : ω} (hfetch : source.ask (.fetch x.worker.pageSize) x.world = (.ok rows, world)) :
    ∃ rest, v.scan world = .reading c rest ∧
      c.IsScan w.spec.selection w.start w.root (seen ++ rows ++ rest) ∧
      (rows = [] ∨ rows.length < x.worker.pageSize → rest = []) := by
  have hsize' : 0 < x.worker.pageSize := hx.same.pageSize ▸ hsize
  have hshort (all : List ChangeRow) (hend : all.take x.worker.pageSize = [] ∨
      (all.take x.worker.pageSize).length < x.worker.pageSize) :
      all.drop x.worker.pageSize = [] := by
    rw [List.drop_eq_nil_iff]
    rw [List.length_take] at hend
    rcases hend with hnil | hlt
    · have hlength := congrArg List.length hnil
      rw [List.length_take, List.length_nil] at hlength
      omega
    · omega
  have hpage := hsource.fetch _ _ _ _ hfetch
  have hstage := hx.stage
  rw [hphase] at hstage
  generalize v.scan x.world = scan at hpage hstage
  cases hstage with
  | opened =>
    obtain ⟨snapshot, all, hreads, rfl, hscan⟩ := hpage
    obtain rfl := hreads.snapshot_eq hstill
    refine ⟨_, hscan, ?_, hshort all⟩
    rw [List.nil_append, List.take_append_drop]
    exact hreads.isScan
  | @reading _ left hisScan =>
    obtain ⟨rfl, hscan⟩ := hpage
    refine ⟨_, hscan, ?_, hshort left⟩
    rw [List.append_assoc, List.take_append_drop]
    exact hisScan

/-- A worker that has dealt with a page stands at a row of it, or where it stood. -/
theorem paged (hx : ScansStill v c w seen x) (hphase : x.worker.phase = .scanning) {w' : Worker}
    {world : ω} (hsame : x.worker.IsSame w') (hphase' : w'.phase = .scanning)
    (hcounted : w'.rowsSeen = x.worker.rowsSeen + rows.length)
    (hscan : v.scan world = .reading c rest)
    (hisScan : c.IsScan w.spec.selection w.start w.root (seen ++ rows ++ rest))
    (hle : x.worker.cursor ≤ w'.cursor) (hrows : ∀ r ∈ rows, r.cursor ≤ w'.cursor)
    (hreached : w'.cursor = x.worker.cursor ∨ ∃ r ∈ rows, r.cursor = w'.cursor) :
    ScansStill v c w (seen ++ rows) ⟨w', world⟩ where
  same := hx.same.trans hsame
  counted := by rw [hcounted, hx.counted, List.length_append]
  stage := by
    simp only [hphase', hscan]
    exact .reading hisScan
  start_le := hx.start_le.trans hle
  seen_le := by
    intro r hr
    rcases List.mem_append.1 hr with hr | hr
    · exact (hx.seen_le r hr).trans hle
    · exact hrows r hr
  reached := by
    rcases hreached with hstood | ⟨r, hr, hcursor⟩
    · rcases hx.reached_of_scanning hphase with hstart | ⟨r, hr, hcursor⟩
      · exact .inl (hstood.trans hstart)
      · exact .inr (.inl ⟨r, List.mem_append_left _ hr, hcursor.trans hstood.symm⟩)
    · exact .inr (.inl ⟨r, List.mem_append_right _ hr, hcursor⟩)
  probed reason hfinished := by
    simp only [hphase'] at hfinished
    cases hfinished

/-- A page without fresh rows leaves the worker where it stands. -/
theorem stale (hx : ScansStill v c w seen x) (hphase : x.worker.phase = .scanning) {world : ω}
    (hstale : x.worker.fresh rows = []) (hscan : v.scan world = .reading c rest)
    (hisScan : c.IsScan w.spec.selection w.start w.root (seen ++ rows ++ rest)) :
    ScansStill v c w (seen ++ rows) ⟨x.worker.counting rows, world⟩ := by
  refine hx.paged hphase (x.worker.isSame_counting rows) hphase rfl hscan hisScan le_rfl
    (fun r hr => ?_) (.inl rfl)
  have hnot : ¬x.worker.start < r.cursor := by
    intro hlt
    have hfresh : r ∈ x.worker.fresh rows := List.mem_filter.2 ⟨hr, decide_eq_true hlt⟩
    rw [hstale] at hfresh
    cases hfresh
  rw [hx.same.start, not_lt] at hnot
  exact hnot.trans hx.start_le

/-- A page with fresh rows takes the worker to the last of them. -/
theorem yielding (hx : ScansStill v c w seen x) (hphase : x.worker.phase = .scanning) {world : ω}
    (hscan : v.scan world = .reading c rest)
    (hisScan : c.IsScan w.spec.selection w.start w.root (seen ++ rows ++ rest)) (records : Nat) :
    ScansStill v c w (seen ++ rows)
      ⟨(x.worker.counting rows).yielding (x.worker.fresh rows) records, world⟩ := by
  have hrows : rows.Pairwise fun a b => a.order b ≠ .gt :=
    (List.pairwise_append.1 (List.pairwise_append.1 hisScan.ascending).1).2.1
  have hsame := (x.worker.isSame_counting rows).trans
    (Worker.isSame_yielding _ (x.worker.fresh rows) records)
  have hstands : ∀ r ∈ rows, r ∉ x.worker.fresh rows → r.cursor ≤ x.worker.cursor := by
    intro r hr hnot
    have hstart : ¬x.worker.start < r.cursor := fun hlt =>
      hnot (List.mem_filter.2 ⟨hr, decide_eq_true hlt⟩)
    rw [hx.same.start, not_lt] at hstart
    exact hstart.trans hx.start_le
  cases hlast : (x.worker.fresh rows).getLast? with
  | none =>
    have hnil : x.worker.fresh rows = [] := List.getLast?_eq_none_iff.1 hlast
    have hcursor : ((x.worker.counting rows).yielding (x.worker.fresh rows) records).cursor =
        x.worker.cursor := by
      simp only [Worker.yielding, hlast]
      rfl
    refine hx.paged hphase hsame (by simp [hphase]) (by simp [Worker.counting]) hscan hisScan
      hcursor.ge (fun r hr => ?_) (.inl hcursor)
    rw [hcursor]
    exact hstands r hr (by simp [hnil])
  | some last =>
    have hmem : last ∈ rows := (List.mem_filter.1 (List.mem_of_getLast? hlast)).1
    have hfresh := cursor_le_getLast (hrows.sublist List.filter_sublist) hlast
    have hraised : ((x.worker.counting rows).yielding (x.worker.fresh rows) records).cursor =
        ((x.worker.counting rows).raise last.cursor).cursor := by
      simp only [Worker.yielding, hlast]
    have hcursor := (x.worker.counting rows).cursor_raise last.cursor
    have hle := (x.worker.counting rows).le_cursor_raise last.cursor
    rw [← hraised] at hcursor hle
    refine hx.paged hphase hsame (by simp [hphase]) (by simp [Worker.counting]) hscan hisScan hle.1
      (fun r hr => ?_) ?_
    · by_cases hnew : r ∈ x.worker.fresh rows
      · exact (hfresh r hnew).trans hle.2
      · exact (hstands r hr hnew).trans hle.1
    · rcases hcursor with hstood | ⟨-, hmoved⟩
      · exact .inl hstood
      · exact .inr ⟨last, hmem, hmoved.symm⟩

/-- A worker that has read its scan to the end may be done. It then moves no more, unless its scan
had no row and it was told of the greatest row of its table. -/
theorem ended (hx : ScansStill v c w seen x) (hphase : x.worker.phase = .scanning)
    (hscan : v.scan x.world = .reading c []) {w' : Worker} (hsame : x.worker.IsSame w')
    (hrows : w'.rowsSeen = x.worker.rowsSeen) (hle : x.worker.cursor ≤ w'.cursor)
    (hstood : w'.cursor = x.worker.cursor ∨ seen = [])
    (hprobed : seen = [] → w.spec.probes = true →
      ∀ t id, c.stamp? w.spec.selection.entity id = some t → Cursor.ofRow t id ≤ w'.cursor)
    (reason : DoneReason) (world : ω) : ScansStill v c w seen ⟨w'.ended reason, world⟩ where
  same := (hx.same.trans hsame).trans (w'.isSame_ended reason)
  counted := hrows.trans hx.counted
  stage := by
    have hstage := hx.stage
    rw [hphase, hscan] at hstage
    have hisScan := hstage.isScan
    rw [List.append_nil] at hisScan
    exact .finished hisScan
  start_le := hx.start_le.trans hle
  seen_le r hr := (hx.seen_le r hr).trans hle
  reached := by
    rcases hstood with hstood | hnil
    · rcases hx.reached_of_scanning hphase with hstart | ⟨r, hr, hcursor⟩
      · exact .inl (hstood.trans hstart)
      · exact .inr (.inl ⟨r, hr, hcursor.trans hstood.symm⟩)
    · exact .inr (.inr ⟨hnil, reason, rfl⟩)
  probed _ _ := hprobed

/-- Every turn leaves a worker in the middle of its scan or at its end. -/
theorem turn (hsource : source.KeepsContract v) (hstill : ∀ world, v.catalog world = c)
    (haggregate : w.aggregate = .filmWork) (hsize : 0 < w.pageSize)
    (hx : ScansStill v c w seen x) (hturn : Extraction.Turns source decode x page x') :
    ∃ rows, ScansStill v c w (seen ++ rows) x' := by
  have henriched {rows : List ChangeRow} {records : List ρ} {world world' : ω}
      (h : Extraction.Rebuilds source decode x.worker.aggregate rows world records world') :
      v.scan world' = v.scan world := by
    obtain ⟨docs, henrich, -⟩ := h
    rw [hx.same.aggregate, haggregate] at henrich
    exact (hsource.enrich _ _ _ _ henrich).1
  cases hturn with
  | done hdone =>
    refine ⟨[], ?_⟩
    rwa [List.append_nil]
  | opened hphase hopen =>
    obtain ⟨rfl, hx'⟩ := hx.openScan hsource hstill hphase hopen
    exact ⟨[], hx'⟩
  | passed hphase hfetch hstale hrows hfull =>
    obtain ⟨rest, hscan, hisScan, -⟩ := hx.fetch hsource hstill hsize hphase hfetch
    exact ⟨_, hx.stale hphase hstale hscan hisScan⟩
  | @ended rows world world' world'' w' hphase hfetch hstale hlast hlooks hclose =>
    obtain ⟨rest, hscan, hisScan, hend⟩ := hx.fetch hsource hstill hsize hphase hfetch
    obtain rfl := hend hlast
    have hx' := hx.stale hphase hstale hscan hisScan
    refine ⟨rows, ?_⟩
    cases hlooks with
    | past hnot =>
      refine hx'.ended hphase hscan (.refl _) rfl le_rfl (.inl rfl) (fun hnil hprobes => ?_) _ _
      refine absurd ⟨?_, ?_⟩ hnot
      · rw [hx'.counted, hnil]
        rfl
      · rw [hx'.same.spec]
        exact hprobes
    | @up greatest _ hempty hprobes hprobe =>
      have hnil : seen ++ rows = [] := List.eq_nil_of_length_eq_zero (hx'.counted.symm.trans hempty)
      have hgreatest := (hsource.probe _ _ _ _ hprobe).2 c [] hscan
      rw [hx'.same.spec] at hgreatest
      cases greatest with
      | none =>
        refine hx'.ended hphase hscan (.refl _) rfl le_rfl (.inr hnil) (fun _ _ t id ht => ?_) _ _
        rw [hgreatest id] at ht
        cases ht
      | some g =>
        have hle := (x.worker.counting rows).le_cursor_raise g
        refine hx'.ended hphase hscan (Worker.isSame_raise _ g) (Worker.raise_rowsSeen _ g) hle.1
          (.inr hnil) (fun _ _ t id ht => (hgreatest.2 t id ht).trans hle.2) _ _
  | yielded hphase hfetch hfresh hfull hrebuilds =>
    obtain ⟨rest, hscan, hisScan, -⟩ := hx.fetch hsource hstill hsize hphase hfetch
    exact ⟨_, hx.yielding hphase ((henriched hrebuilds).trans hscan) hisScan _⟩
  | @yieldedLast rows records world world' world'' hphase hfetch hfresh hlast hrebuilds hclose =>
    obtain ⟨rest, hscan, hisScan, hend⟩ := hx.fetch hsource hstill hsize hphase hfetch
    obtain rfl := hend (.inr hlast)
    have hscan' := (henriched hrebuilds).trans hscan
    have hx' := hx.yielding hphase hscan' hisScan records.length
    refine ⟨rows, hx'.ended (by simp [hphase]) hscan' (.refl _) rfl le_rfl (.inl rfl)
      (fun hnil _ => ?_) _ _⟩
    rw [(List.append_eq_nil_iff.1 hnil).2] at hfresh
    exact absurd rfl hfresh

/-- A worker that is done leaves its stream caught up, if the bound of its scan hid nothing. -/
theorem caughtUp (hx : ScansStill v c w seen x) {reason : DoneReason}
    (hdone : x.worker.phase = .finished reason) (hunhidden : c.Unhidden w.root)
    (hprobes : w.spec.probes = w.spec.selection.isRelated) :
    c.CaughtUp w.spec.selection x.worker.cursor := by
  have hstage := hx.stage
  rw [hdone] at hstage
  cases hstage with
  | finished hisScan =>
    have hjoined : ∀ r, c.Joined w.spec.selection r → r.cursor ≤ x.worker.cursor := by
      intro r hr
      by_cases hstart : w.start.timestamp ≤ r.timestamp
      · exact hx.seen_le r ((hisScan.mem_iff r).2 (hunhidden.inScan hr hstart))
      · exact (ChangeRow.cursor_lt (not_le.1 hstart)).le.trans hx.start_le
    refine ⟨hjoined, ?_⟩
    cases hseen : seen with
    | nil =>
      refine .inr fun t id ht => ?_
      cases hselection : w.spec.selection with
      | related entity =>
        exact hx.probed reason hdone hseen (by rw [hprobes, hselection]; rfl) t id ht
      | root entity =>
        rw [hselection] at hjoined ht
        exact hjoined ⟨id, t, id⟩ ⟨ht, rfl⟩
    | cons first others =>
      have hin (r : ChangeRow) (hr : r ∈ seen) := (hisScan.mem_iff r).1 hr
      rcases hx.reached with hstart | ⟨r, hr, hcursor⟩ | ⟨hnil, -⟩
      · have hfirst := hin first (by simp [hseen])
        refine .inl ⟨first, hfirst.1, ?_⟩
        rw [hstart]
        exact hfirst.2.1
      · refine .inl ⟨r, (hin r hr).1, ?_⟩
        rw [← hcursor]
        exact le_rfl
      · rw [hseen] at hnil
        cases hnil

end ScansStill

end CatalogSync
