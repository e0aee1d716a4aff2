import CatalogSync.Proofs.Extract.Turns
import CatalogSync.Proofs.Pass.Log

/-!
# Pages of any size

A worker that is asked for pages until it is done goes through the result of its scan in pages of
its own size. Whatever that size is, it has the same aggregates rebuilt and comes to stand at the
same cursor. While it scans, the rows it was given and the rows that are left are those of the
scan, it stands at the last fresh row it was given, and the roots it has asked for are those of the
fresh rows it was given.
-/

namespace CatalogSync

/-- The ids of the aggregates that are asked for, if some are. -/
def PassEvent.enriched? : PassEvent → Option (List String)
  | asked (.enrich _ ids) _ => some ids
  | _ => none

/-- The requests for aggregates, in order. -/
def enrichments (events : List PassEvent) : List (List String) :=
  events.filterMap PassEvent.enriched?

namespace Worker

/-- Where a worker stands that was given these rows from its start on. -/
def reached (start : Cursor) (rows : List ChangeRow) : Cursor :=
  ((rows.filter fun r => start < r.cursor).getLast?.map ChangeRow.cursor).getD start

/-- Where a worker comes to stand behind the rows of its scan. -/
def settled (spec : WorkerSpec) (start : Cursor) (rows : List ChangeRow)
    (greatest : Option Cursor) : Cursor :=
  if rows = [] ∧ spec.probes then greatest.elim start (max start) else reached start rows

variable {start : Cursor} {seen rows : List ChangeRow}

/-- Rows that are not behind the start take the cursor nowhere. -/
theorem reached_of_stale (h : (rows.filter fun r => start < r.cursor) = []) :
    reached start (seen ++ rows) = reached start seen := by
  rw [reached, List.filter_append, h, List.append_nil, reached]

/-- The last fresh row is where the cursor stands. -/
theorem reached_of_fresh {last : ChangeRow}
    (h : (rows.filter fun r => start < r.cursor).getLast? = some last) :
    reached start (seen ++ rows) = last.cursor := by
  rw [reached, List.filter_append, List.getLast?_append, h]
  rfl

/-- Rows that follow others in order reach no less far. -/
theorem reached_le {last : ChangeRow} (hsorted : (seen ++ rows).Pairwise (· ≤ ·))
    (h : (rows.filter fun r => start < r.cursor).getLast? = some last) :
    reached start seen ≤ last.cursor := by
  have hlast := List.mem_filter.1 (List.mem_of_getLast? h)
  rcases hseen : (seen.filter fun r => start < r.cursor).getLast? with _ | r
  · rw [reached, hseen]
    exact (of_decide_eq_true hlast.2).le
  · have hr := (List.mem_filter.1 (List.mem_of_getLast? hseen)).1
    rw [reached, hseen]
    exact ChangeRow.cursor_le
      ((ChangeRow.le_iff ..).1 ((List.pairwise_append.1 hsorted).2.2 r hr last hlast.1))

/-- The cursor is moved to what is not behind it. -/
theorem raise_cursor_of_le {w : Worker} {c : Cursor} (h : w.cursor ≤ c) :
    (w.raise c).cursor = c := by
  unfold raise
  split
  · rfl
  · next hnot => exact le_antisymm h (not_lt.1 hnot)

/-- Handing on records moves the cursor to the last of their rows. -/
theorem yielding_cursor {w : Worker} {last : ChangeRow} (hlast : rows.getLast? = some last)
    (h : w.cursor ≤ last.cursor) (records : Nat) :
    (w.yielding rows records).cursor = last.cursor := by
  simp only [yielding, hlast]
  exact raise_cursor_of_le h

/-- Being told the greatest row moves the cursor up to it, and never back. -/
theorem told_cursor (w : Worker) (greatest : Option Cursor) :
    (w.told greatest).cursor = greatest.elim w.cursor (max w.cursor) := by
  cases greatest with
  | none => rfl
  | some c =>
    simp only [told, raise, Option.elim_some]
    split
    · next hlt => exact (max_eq_right hlt.le).symm
    · next hnot => exact (max_eq_left (not_lt.1 hnot)).symm

end Worker

/-- The requests so far were for the roots of the fresh ones of these rows, none twice in one. -/
structure Requested (start : Cursor) (seen : List ChangeRow) (events : List PassEvent) : Prop where
  nodup : ∀ ids ∈ enrichments events, ids.Nodup
  mem_iff : ∀ id, (∃ ids ∈ enrichments events, id ∈ ids) ↔
    ∃ r ∈ seen, start < r.cursor ∧ r.rootId = id

namespace Requested

variable {start : Cursor} {seen rows : List ChangeRow} {events : List PassEvent}

/-- Before anything was seen nothing was requested. -/
theorem nil (start : Cursor) : Requested start [] [] :=
  ⟨by simp [enrichments], by simp [enrichments]⟩

/-- Other questions do not count. -/
theorem other (h : Requested start seen events) {event : PassEvent}
    (hevent : event.enriched? = none) :
    Requested start seen (events ++ [event]) := by
  have hsame : enrichments (events ++ [event]) = enrichments events := by
    simp [enrichments, hevent]
  exact ⟨hsame ▸ h.nodup, hsame ▸ h.mem_iff⟩

/-- Rows that are not fresh need no request. -/
theorem stale (h : Requested start seen events)
    (hstale : (rows.filter fun r => start < r.cursor) = []) :
    Requested start (seen ++ rows) events where
  nodup := h.nodup
  mem_iff id := by
    have hnone : ∀ r ∈ rows, ¬start < r.cursor := fun r hr hlt =>
      List.filter_eq_nil_iff.1 hstale r hr (decide_eq_true hlt)
    rw [h.mem_iff]
    constructor
    · rintro ⟨r, hr, hfresh⟩
      exact ⟨r, List.mem_append_left _ hr, hfresh⟩
    · rintro ⟨r, hr, hlt, hid⟩
      rcases List.mem_append.1 hr with hr | hr
      · exact ⟨r, hr, hlt, hid⟩
      · exact absurd hlt (hnone r hr)

/-- The roots of the fresh rows are asked for, each once. -/
theorem fresh (h : Requested start seen events) (rows : List ChangeRow) (aggregate : Aggregate)
    (answer : Outcome SourceError (List Json)) :
    Requested start (seen ++ rows) (events ++ [.asked (.enrich aggregate
      (distinct ((rows.filter fun r => start < r.cursor).map ChangeRow.rootId))) answer]) := by
  have hsame (ids : List String) : enrichments (events ++ [.asked (.enrich aggregate ids) answer]) =
      enrichments events ++ [ids] := by
    simp [enrichments, PassEvent.enriched?]
  constructor
  · rw [hsame, List.forall_mem_append, List.forall_mem_singleton]
    exact ⟨h.nodup, nodup_distinct _⟩
  · intro id
    simp only [hsame, List.mem_append, List.mem_singleton, or_and_right, exists_or, exists_eq_left,
      h.mem_iff, mem_distinct, List.mem_map, List.mem_filter, decide_eq_true_eq, and_assoc]

end Requested

/-- A question that is answered is noted with its answer. -/
theorem Source.logged_ask_eq {ω : Type} (source : Source ω) {c : SourceCall} {world world' : ω}
    {answer : Outcome SourceError c.Answer} (h : source.ask c world = (answer, world'))
    (events : List PassEvent) :
    source.logged.ask c ⟨world, events⟩ = (answer, ⟨world', events ++ [.asked c answer]⟩) := by
  simp only [logged, Logged.call, h]

/-- The source serves the rows of a scan page by page. A page is short only at the end. What it
rebuilds is shaped as records. -/
structure Source.Serves {ω ρ : Type} (source : Source ω) (decode : Decoder ρ) (spec : WorkerSpec)
    (aggregate : Aggregate) (start : Cursor) (root : Option Cursor) (left : ω → List ChangeRow)
    (rows : List ChangeRow) (greatest : Option Cursor) : Prop where
  openScan : ∀ world, ∃ world', left world' = rows ∧
    source.ask (.openScan spec.selection start root) world = (.ok (), world')
  fetch : ∀ count world, ∃ world', left world' = (left world).drop count ∧
    source.ask (.fetch count) world = (.ok ((left world).take count), world')
  closeScan : ∀ world, ∃ world', source.ask .closeScan world = (.ok (), world')
  probe : ∀ world, ∃ world',
    source.ask (.probe spec.selection.entity) world = (.ok greatest, world')
  enrich : ∀ ids world, ∃ docs records world', left world' = left world ∧
    source.ask (.enrich aggregate ids) world = (.ok docs, world') ∧ docs.mapM decode = .ok records

namespace Extraction

variable {ω ρ : Type}

/-- Ask for pages until there is no other one. -/
def toEnd (source : Source ω) (decode : Decoder ρ) (allowance : Nat) :
    Call SourceError (Extraction ω) DoneReason :=
  let step : Call SourceError (Extraction ω) (Option DoneReason) := do
    match ← nextPage source decode allowance with
    | .records _ => return none
    | .done reason => return some reason
  step.untilSome allowance

/-- A worker comes to its end alike in both worlds. -/
theorem mirrors_toEnd {τ : Type} {part : τ → ω} {source' : Source τ} {source : Source ω}
    (h : source'.Mirrors part source) (decode : Decoder ρ) (allowance : Nat) :
    Call.Mirrors (onPart part) (toEnd source' decode allowance)
      (toEnd source decode allowance) := by
  refine Call.Mirrors.untilSome ((mirrors_nextPage h decode allowance).bind fun page => ?_)
    allowance
  cases page with
  | records records => exact .pure none
  | done reason => exact .pure (some reason)

/-- A worker in the middle of its scan, after the rows it was given. -/
structure Reading (w : Worker) (left : ω → List ChangeRow) (rows seen : List ChangeRow)
    (x : Extraction (Logged ω)) : Prop where
  same : w.IsSame x.worker
  phase : x.worker.phase = .scanning
  split : seen ++ left x.world.world = rows
  counted : x.worker.rowsSeen = seen.length
  cursor : x.worker.cursor = Worker.reached w.start seen
  requested : Requested w.start seen x.world.events

/-- How far a worker has come that is asked for pages. -/
inductive Paging (w : Worker) (left : ω → List ChangeRow) (rows : List ChangeRow)
    (greatest : Option Cursor) : Extraction (Logged ω) → Prop where
  | idle {world : ω} (hphase : w.phase = .idle) (hcounted : w.rowsSeen = 0)
    (hcursor : w.cursor = w.start) : Paging w left rows greatest ⟨w, ⟨world, []⟩⟩
  | reading {seen : List ChangeRow} {x : Extraction (Logged ω)} (h : Reading w left rows seen x) :
    Paging w left rows greatest x
  | finished {x : Extraction (Logged ω)} {reason : DoneReason}
    (hphase : x.worker.phase = .finished reason)
    (hcursor : x.worker.cursor = Worker.settled w.spec w.start rows greatest)
    (hrequested : Requested w.start rows x.world.events) : Paging w left rows greatest x

/-- How many turns a worker has left at most, before it is done. -/
def distance (left : ω → List ChangeRow) (rows : List ChangeRow)
    (x : Extraction (Logged ω)) : Nat :=
  match x.worker.phase with
  | .idle => rows.length + 2
  | .scanning => (left x.world.world).length + 1
  | .finished _ => 0

variable {source : Source ω} {decode : Decoder ρ} {w : Worker} {left : ω → List ChangeRow}
  {rows seen page : List ChangeRow} {greatest : Option Cursor} {x x' : Extraction (Logged ω)}
  {world : Logged ω}

/-- What a turn comes to: the worker is done, or else it has fewer turns left. -/
def Nears (left : ω → List ChangeRow) (rows : List ChangeRow) (x : Extraction (Logged ω)) :
    Option (Page ρ) → Extraction (Logged ω) → Prop
  | some (.done reason), x' => x'.worker.phase = .finished reason
  | _, x' => distance left rows x' < distance left rows x

namespace Reading

/-- The next page is cut off what is left. -/
theorem fetch (h : Reading w left rows seen x)
    (hsource : source.Serves decode w.spec w.aggregate w.start w.root left rows greatest) :
    ∃ page world, source.logged.ask (.fetch x.worker.pageSize) x.world = (.ok page, world) ∧
      seen ++ page ++ left world.world = rows ∧
      (page.length < x.worker.pageSize → left world.world = []) ∧
      (left x.world.world).length = page.length + (left world.world).length ∧
      Requested w.start seen world.events := by
  obtain ⟨world', hleft, hfetch⟩ := hsource.fetch x.worker.pageSize x.world.world
  refine ⟨_, _, source.logged_ask_eq hfetch x.world.events, ?_, ?_, ?_, h.requested.other rfl⟩
  · rw [hleft, List.append_assoc, List.take_append_drop]
    exact h.split
  · intro hshort
    rw [List.length_take] at hshort
    rw [hleft, List.drop_eq_nil_iff]
    omega
  · rw [hleft, ← List.length_append, List.take_append_drop]

/-- The fresh rows of a page are those behind the start of the worker. -/
theorem fresh_eq (h : Reading w left rows seen x) (page : List ChangeRow) :
    x.worker.fresh page = page.filter fun r => w.start < r.cursor := by
  rw [Worker.fresh, h.same.start]

/-- A scan whose last page holds nothing fresh is ended. -/
theorem ended (h : Reading w left rows seen x)
    (hsource : source.Serves decode w.spec w.aggregate w.start w.root left rows greatest)
    (hfetch : source.logged.ask (.fetch x.worker.pageSize) x.world = (.ok page, world))
    (hrequested : Requested w.start seen world.events) (hrows : seen ++ page = rows)
    (hstale : (page.filter fun r => w.start < r.cursor) = [])
    (hshort : page.length < x.worker.pageSize) :
    ∃ page x', turn source.logged decode x = (.ok page, x') ∧
      Paging w left rows greatest x' ∧ Nears left rows x page x' := by
  have hnone : x.worker.fresh page = [] := (h.fresh_eq page).trans hstale
  have hcounted : (x.worker.counting page).rowsSeen = rows.length := by
    rw [← hrows, List.length_append, ← h.counted]
    rfl
  have hreached : x.worker.cursor = Worker.reached w.start rows := by
    rw [h.cursor, ← hrows, Worker.reached_of_stale hstale]
  have hmore : Requested w.start rows world.events := hrows ▸ hrequested.stale hstale
  by_cases hlooks : (x.worker.counting page).rowsSeen = 0 ∧ x.worker.spec.probes = true
  · obtain ⟨world', hprobe⟩ := hsource.probe world.world
    rw [← h.same.spec] at hprobe
    have hlogged := source.logged_ask_eq hprobe world.events
    obtain ⟨world'', hclose⟩ := hsource.closeScan world'
    have hclosed := source.logged_ask_eq hclose (world.events ++
      [.asked (.probe x.worker.spec.selection.entity) (.ok greatest)])
    refine ⟨_, _, (Turns.ended h.phase hfetch hnone (.inr hshort) (.up hlooks.1 hlooks.2 hlogged)
      hclosed).turn_eq, .finished rfl ?_ ((hmore.other rfl).other rfl), rfl⟩
    have hnil : rows = [] := List.length_eq_zero_iff.1 (hcounted.symm.trans hlooks.1)
    have hstart : x.worker.cursor = w.start := by rw [hreached, hnil]; rfl
    change ((x.worker.counting page).told greatest).cursor = _
    rw [Worker.told_cursor, Worker.settled, if_pos ⟨hnil, h.same.spec ▸ hlooks.2⟩, ← hstart]
    rfl
  · obtain ⟨world', hclose⟩ := hsource.closeScan world.world
    have hclosed := source.logged_ask_eq hclose world.events
    refine ⟨_, _, (Turns.ended h.phase hfetch hnone (.inr hshort) (.past hlooks) hclosed).turn_eq,
      .finished rfl ?_ (hmore.other rfl), rfl⟩
    have hnot : ¬(rows = [] ∧ w.spec.probes) := by
      rintro ⟨hnil, hprobes⟩
      exact hlooks ⟨hcounted.trans (hnil ▸ rfl), h.same.spec ▸ hprobes⟩
    rw [Worker.settled, if_neg hnot]
    exact hreached

/-- A page that holds something fresh is yielded. -/
theorem yielding (h : Reading w left rows seen x)
    (hsource : source.Serves decode w.spec w.aggregate w.start w.root left rows greatest)
    (hsorted : rows.Pairwise (· ≤ ·))
    (hfetch : source.logged.ask (.fetch x.worker.pageSize) x.world = (.ok page, world))
    (hrequested : Requested w.start seen world.events)
    (hsplit : seen ++ page ++ left world.world = rows)
    (hshort : page.length < x.worker.pageSize → left world.world = [])
    (hlength : (left x.world.world).length = page.length + (left world.world).length)
    (hfresh : (page.filter fun r => w.start < r.cursor) ≠ []) :
    ∃ page x', turn source.logged decode x = (.ok page, x') ∧
      Paging w left rows greatest x' ∧ Nears left rows x page x' := by
  have hsome : x.worker.fresh page ≠ [] := h.fresh_eq page ▸ hfresh
  have hlast := List.getLast?_eq_some_getLast hfresh
  obtain ⟨docs, records, world', hleft, henrich, hdecode⟩ := hsource.enrich
    (distinct ((page.filter fun r => w.start < r.cursor).map ChangeRow.rootId)) world.world
  have hlogged := source.logged_ask_eq henrich world.events
  have hmore := hrequested.fresh page w.aggregate (.ok docs)
  rw [← h.same.aggregate, ← h.fresh_eq] at hlogged hmore
  have hsorted' : (seen ++ page).Pairwise (· ≤ ·) :=
    hsorted.sublist (hsplit ▸ List.sublist_append_left ..)
  have hcursor : ((x.worker.counting page).yielding (x.worker.fresh page) records.length).cursor =
      Worker.reached w.start (seen ++ page) := by
    rw [Worker.reached_of_fresh hlast, h.fresh_eq]
    exact Worker.yielding_cursor (w := x.worker.counting page) hlast
      (h.cursor.trans_le (Worker.reached_le hsorted' hlast)) _
  have hpos : 0 < page.length := by
    rw [List.length_pos_iff]
    rintro rfl
    exact hfresh rfl
  by_cases hfull : x.worker.pageSize ≤ page.length
  · refine ⟨_, _, (Turns.yielded h.phase hfetch hsome hfull ⟨docs, hlogged, hdecode⟩).turn_eq,
      .reading (?_ : Reading w left rows (seen ++ page) _), ?_⟩
    · constructor
      · exact (h.same.trans (x.worker.isSame_counting page)).trans (Worker.isSame_yielding ..)
      · simpa using h.phase
      · rw [hleft]
        exact hsplit
      · simp [Worker.counting, h.counted]
      · exact hcursor
      · exact hmore
    · simp only [Nears, distance, Worker.yielding_phase, Worker.counting_phase, h.phase, hleft]
      omega
  · have hnil := hshort (not_le.1 hfull)
    have hrows : seen ++ page = rows := by simpa [hnil] using hsplit
    obtain ⟨world'', hclose⟩ := hsource.closeScan world'
    have hclosed := source.logged_ask_eq hclose (world.events ++ [.asked (.enrich x.worker.aggregate
      (distinct ((x.worker.fresh page).map ChangeRow.rootId))) (.ok docs)])
    refine ⟨_, _, (Turns.yieldedLast h.phase hfetch hsome (not_le.1 hfull)
      ⟨docs, hlogged, hdecode⟩ hclosed).turn_eq, .finished rfl ?_ ?_, ?_⟩
    · have hne : rows ≠ [] := by
        rintro rfl
        simp [(List.append_eq_nil_iff.1 hrows).2] at hpos
      rw [Worker.settled, if_neg fun hnone => hne hnone.1, ← hrows]
      exact hcursor
    · rw [← hrows]
      exact hmore.other rfl
    · simp [Nears, distance, h.phase]

end Reading

/-- A worker that is not done yet comes nearer to it with every turn. -/
theorem Paging.turn (h : Paging w left rows greatest x)
    (hsource : source.Serves decode w.spec w.aggregate w.start w.root left rows greatest)
    (hsorted : rows.Pairwise (· ≤ ·)) (hsize : 0 < w.pageSize) :
    ∃ page x', Extraction.turn source.logged decode x = (.ok page, x') ∧
      Paging w left rows greatest x' ∧ Nears left rows x page x' := by
  cases h with
  | @idle world hphase hcounted hcursor =>
    obtain ⟨world', hleft, hopen⟩ := hsource.openScan world
    refine ⟨_, _, (Turns.opened hphase (source.logged_ask_eq hopen [])).turn_eq,
      .reading (?_ : Reading w left rows [] _), ?_⟩
    · exact ⟨⟨rfl, rfl, rfl, rfl, rfl⟩, rfl, hleft, hcounted, hcursor,
        (Requested.nil w.start).other rfl⟩
    · simp [Nears, distance, hphase, hleft]
  | finished hphase hcursor hrequested =>
    exact ⟨_, _, (Turns.done hphase).turn_eq, .finished hphase hcursor hrequested, hphase⟩
  | @reading seen _ h =>
    obtain ⟨page, world, hfetch, hsplit, hshort, hlength, hrequested⟩ := h.fetch hsource
    by_cases hfresh : (page.filter fun r => w.start < r.cursor) = []
    · by_cases hfull : x.worker.pageSize ≤ page.length
      · have hpos : 0 < page.length := (h.same.pageSize.symm ▸ hsize).trans_le hfull
        refine ⟨_, _, (Turns.passed h.phase hfetch ((h.fresh_eq page).trans hfresh)
          (List.length_pos_iff.1 hpos) hfull).turn_eq,
          .reading (?_ : Reading w left rows (seen ++ page) _), ?_⟩
        · constructor
          · exact h.same.trans (x.worker.isSame_counting page)
          · exact h.phase
          · exact hsplit
          · simp [Worker.counting, h.counted]
          · rw [Worker.reached_of_stale hfresh]
            exact h.cursor
          · exact hrequested.stale hfresh
        · simp only [Nears, distance, Worker.counting_phase, h.phase]
          omega
      · have hrows : seen ++ page = rows := by simpa [hshort (not_le.1 hfull)] using hsplit
        exact h.ended hsource hfetch hrequested hrows hfresh (not_le.1 hfull)
    · exact h.yielding hsource hsorted hfetch hrequested hsplit hshort hlength hfresh

/-- So does it with every page. -/
theorem Paging.nextPage (h : Paging w left rows greatest x)
    (hsource : source.Serves decode w.spec w.aggregate w.start w.root left rows greatest)
    (hsorted : rows.Pairwise (· ≤ ·)) (hsize : 0 < w.pageSize) {allowance : Nat}
    (hallowance : distance left rows x < allowance) :
    (Extraction.nextPage source.logged decode allowance).Ends
      (fun page x' => Paging w left rows greatest x' ∧ Nears left rows x (some page) x')
      (fun _ _ => False) x := by
  refine Call.ends_untilSome_of_lt (distance left rows) (I := fun y =>
    Paging w left rows greatest y ∧ distance left rows y ≤ distance left rows x) ?_ allowance
    ⟨h, le_rfl⟩ hallowance
  rintro y ⟨hy, hle⟩
  obtain ⟨page, y', hturn, hy', hnears⟩ := hy.turn hsource hsorted hsize
  rw [Call.ends_iff_of_ok hturn]
  rcases page with _ | (records | reason)
  · have hlt : distance left rows y' < distance left rows y := hnears
    exact ⟨⟨hy', hlt.le.trans hle⟩, hlt⟩
  · have hlt : distance left rows y' < distance left rows y := hnears
    exact ⟨hy', hlt.trans_le hle⟩
  · exact ⟨hy', hnears⟩

/-- A worker that is asked for pages is done in the end. -/
theorem Paging.toEnd (h : Paging w left rows greatest x)
    (hsource : source.Serves decode w.spec w.aggregate w.start w.root left rows greatest)
    (hsorted : rows.Pairwise (· ≤ ·)) (hsize : 0 < w.pageSize) {allowance : Nat}
    (hallowance : distance left rows x < allowance) :
    (Extraction.toEnd source.logged decode allowance).Ends
      (fun reason x' => Paging w left rows greatest x' ∧ x'.worker.phase = .finished reason)
      (fun _ _ => False) x := by
  refine Call.ends_untilSome_of_lt (distance left rows) (I := fun y =>
    Paging w left rows greatest y ∧ distance left rows y < allowance) ?_ allowance
    ⟨h, hallowance⟩ hallowance
  rintro y ⟨hy, hlt⟩
  rw [Call.ends_bind]
  refine (hy.nextPage hsource hsorted hsize hlt).imp fun page y' hy' => ?_
  cases page with
  | records records => exact ⟨⟨hy'.1, lt_trans hy'.2 hlt⟩, hy'.2⟩
  | done reason => exact hy'

end Extraction

namespace Source

variable {ω ρ : Type}

/-- Whatever the size of its pages, a worker that is asked for pages until it is done comes to be
done, if its source serves the rows of its scan in order. No request for aggregates names one twice.
All of them together are for the roots of those rows that lie behind the cursor it started from. It
ends at the last such row, or where it started; behind a scan without any row it ends at the
greatest row of the table if it is to ask for that and it lies further on. -/
theorem pages_any_size {source : Source ω} {decode : Decoder ρ} {spec : WorkerSpec}
    {aggregate : Aggregate} {start : Cursor} {root : Option Cursor} {left : ω → List ChangeRow}
    {rows : List ChangeRow} {greatest : Option Cursor}
    (hsource : source.Serves decode spec aggregate start root left rows greatest)
    (hsorted : rows.Pairwise (· ≤ ·)) (world : ω) (pageSize allowance : Nat)
    (hallowance : rows.length + 2 < allowance) :
    ∃ reason x', Extraction.toEnd source decode allowance
        ⟨.ofSpec spec aggregate start root pageSize, world⟩ =
          (.ok reason, x'.onPart Logged.world) ∧
      Extraction.toEnd source.logged decode allowance
        ⟨.ofSpec spec aggregate start root pageSize, ⟨world, []⟩⟩ = (.ok reason, x') ∧
      (∀ ids ∈ enrichments x'.world.events, ids.Nodup) ∧
      (∀ id, (∃ ids ∈ enrichments x'.world.events, id ∈ ids) ↔
        ∃ r ∈ rows, start < r.cursor ∧ r.rootId = id) ∧
      x'.worker.cursor = Worker.settled spec start rows greatest := by
  let w : Worker := .ofSpec spec aggregate start root pageSize
  have hsize : 0 < w.pageSize := Nat.lt_of_lt_of_le Nat.zero_lt_one (le_max_right pageSize 1)
  have hidle : Extraction.Paging w left rows greatest ⟨w, ⟨world, []⟩⟩ := .idle rfl rfl rfl
  have hends := hidle.toEnd hsource hsorted hsize hallowance
  have hmirrors : source.logged.Mirrors Logged.world source := fun c =>
    Logged.mirrors_call (.asked c) (source.ask c)
  have hplain := Extraction.mirrors_toEnd hmirrors decode allowance ⟨w, ⟨world, []⟩⟩
  rcases hrun : Extraction.toEnd source.logged decode allowance ⟨w, ⟨world, []⟩⟩ with
    ⟨reason | e | _, x'⟩
  · obtain ⟨hpaging, hphase⟩ := hends.of_ok hrun
    rw [hrun] at hplain
    refine ⟨reason, x', hplain, rfl, ?_⟩
    cases hpaging with
    | idle => cases hphase
    | reading h => rw [h.phase] at hphase; cases hphase
    | finished _ hcursor hrequested => exact ⟨hrequested.nodup, hrequested.mem_iff, hcursor⟩
  · exact (hends.of_error hrun).elim
  · exact (hends.of_unfinished hrun).elim

/-- A source of these rows, whose world is what is left of them. Its aggregates are the ids. -/
def ofRows (rows : List ChangeRow) (greatest : Option Cursor) : Source (List ChangeRow) where
  ask
    | .openScan .., _ => (.ok (), rows)
    | .fetch count, rest => (.ok (rest.take count), rest.drop count)
    | .closeScan, rest => (.ok (), rest)
    | .probe _, rest => (.ok greatest, rest)
    | .enrich _ ids, rest => (.ok (ids.map .str), rest)
    | .ping, rest => (.ok (), rest)

/-- A source that is made of rows serves them. -/
theorem serves_ofRows (rows : List ChangeRow) (greatest : Option Cursor) (spec : WorkerSpec)
    (aggregate : Aggregate) (start : Cursor) (root : Option Cursor) :
    (ofRows rows greatest).Serves Except.ok spec aggregate start root id rows greatest where
  openScan _ := ⟨rows, rfl, rfl⟩
  fetch count rest := ⟨rest.drop count, rfl, rfl⟩
  closeScan rest := ⟨rest, rfl⟩
  probe rest := ⟨rest, rfl⟩
  enrich ids rest := by
    refine ⟨ids.map .str, ids.map .str, rest, rfl, rfl, ?_⟩
    exact (List.mapM_pure (f := id)).trans (congrArg Except.ok (List.map_id _))

/-- A row that was handled already, and a later one of three films. -/
def sharedRow : List ChangeRow :=
  [⟨"a", .first, "g"⟩, ⟨"a", .first, "h"⟩, ⟨"b", .first, "h"⟩, ⟨"c", .first, "h"⟩]

/-- In pages of two rows the first page is mixed, the second one repeats nothing, and an empty third
one ends the scan. -/
theorem pages_any_size_two :
    ∃ reason x', Extraction.toEnd (ofRows sharedRow none).logged Except.ok 7
        ⟨.ofSpec (.related "film" .genre) .filmWork (.ofRow .first "g") none 2, ⟨[], []⟩⟩ =
          (.ok reason, x') ∧
      enrichments x'.world.events = [["a"], ["b", "c"]] ∧
      (∀ id, (∃ ids ∈ enrichments x'.world.events, id ∈ ids) ↔
        ∃ r ∈ sharedRow, Cursor.ofRow .first "g" < r.cursor ∧ r.rootId = id) ∧
      x'.worker.cursor = .ofRow .first "h" := by
  have hsorted : sharedRow.Pairwise (· ≤ ·) := by
    simp only [ChangeRow.le_iff]
    decide +kernel
  have hsource := serves_ofRows sharedRow none (.related "film" .genre) .filmWork
    (.ofRow .first "g") none
  obtain ⟨reason, x', -, hrun, -, hids, hcursor⟩ :=
    pages_any_size hsource hsorted [] 2 7 (by decide)
  have hrequests : enrichments (Extraction.toEnd (ofRows sharedRow none).logged
      (Except.ok : Decoder Json) 7 ⟨.ofSpec (.related "film" .genre) .filmWork (.ofRow .first "g")
        none 2, ⟨[], []⟩⟩).2.world.events = [["a"], ["b", "c"]] := by
    decide +kernel
  rw [hrun] at hrequests
  refine ⟨reason, x', hrun, hrequests, hids, hcursor.trans ?_⟩
  decide +kernel

end Source

end CatalogSync
