import CatalogSync.Proofs.Pass.Commit
import CatalogSync.Proofs.Pass.Log

/-!
# Commits go forward

A worker opens one scan, where its stream stands, and moves only to where the scan or the greatest
row of its table shows something further on. Nothing else is assumed of a source: its rows may come
in any order and from anywhere. So whatever is committed moves one stream of the pass, and moves it
forward to something that was read since its scan was opened.
-/

namespace CatalogSync

namespace PassEvent

/-- The event neither opens a scan nor commits. -/
def Continues : PassEvent → Prop
  | asked call _ => ¬call.Opens
  | wrote .. => True
  | committed .. => False

/-- The source shows a cursor: that of a row, or of the greatest row of a table. -/
def Reads (c : Cursor) : PassEvent → Prop
  | asked (.fetch _) (.ok rows) => ∃ r ∈ rows, r.cursor = c
  | asked (.probe _) (.ok greatest) => greatest = some c
  | _ => False

/-- What only goes on with a scan commits nothing. -/
theorem Continues.not_isCommitted {event : PassEvent} (h : event.Continues) :
    ¬event.IsCommitted := by
  cases event with
  | committed cursors answer => exact absurd h id
  | asked call answer => exact id
  | wrote batch answer => exact id

end PassEvent

/-- Nothing is committed while a scan goes on. -/
theorem uncommitted_of_continues {events : List PassEvent} (h : ∀ event ∈ events, event.Continues) :
    Uncommitted events :=
  fun event hevent => (h event hevent).not_isCommitted

/-- A recorded question is answered as the question itself, and noted. -/
theorem Source.logged_ask {ω : Type} {source : Source ω} {c : SourceCall} {t t' : Logged ω}
    {answer : Outcome SourceError c.Answer} (h : source.logged.ask c t = (answer, t')) :
    source.ask c t.world = (answer, t'.world) ∧ t'.events = t.events ++ [.asked c answer] := by
  have hask : source.logged.ask c t = ((source.ask c t.world).1,
      ⟨(source.ask c t.world).2, t.events ++ [.asked c (source.ask c t.world).1]⟩) := rfl
  rw [hask] at h
  obtain ⟨rfl, rfl⟩ := Prod.mk.inj h
  exact ⟨rfl, rfl⟩

/-- Questions are noted as they are asked. -/
theorem Source.Asks.events {ω : Type} {source : Source ω} {P : SourceCall → Prop} {t t' : Logged ω}
    (h : source.logged.Asks P t t') :
    ∃ more, t'.events = t.events ++ more ∧
      ∀ event ∈ more, ∃ c answer, P c ∧ event = .asked c answer := by
  induction h with
  | refl => exact ⟨[], (List.append_nil _).symm, by simp⟩
  | @tail u v _ hask ih =>
    obtain ⟨c, hc, rfl⟩ := hask
    obtain ⟨more, hevents, hmore⟩ := ih
    refine ⟨more ++ [.asked c (source.ask c u.world).1], ?_, ?_⟩
    · have hnoted : (source.logged.ask c u).2.events =
          u.events ++ [.asked c (source.ask c u.world).1] := rfl
      rw [hnoted, hevents, List.append_assoc]
    · refine List.forall_mem_append.2 ⟨hmore, List.forall_mem_singleton.2 ?_⟩
      exact ⟨c, _, hc, rfl⟩

/-- Every event of the list has the property, given the events before it. -/
def Traced (P : List PassEvent → PassEvent → Prop) (events : List PassEvent) : Prop :=
  ∀ before event after, events = before ++ event :: after → P before event

section

variable {P : List PassEvent → PassEvent → Prop} {events more : List PassEvent}

/-- Of no events everything holds. -/
@[simp] theorem traced_nil : Traced P [] := by
  intro before event after h
  cases before <;> cases h

/-- What holds of events in a row holds of the first, and then of the others behind these. -/
theorem traced_append :
    Traced P (events ++ more) ↔
      Traced P events ∧ Traced (fun before => P (events ++ before)) more := by
  constructor
  · intro h
    constructor
    · rintro before event after rfl
      exact h before event (after ++ more) (by simp)
    · rintro before event after rfl
      exact h (events ++ before) event after (by simp)
  · rintro ⟨hevents, hmore⟩ before event after h
    rcases List.append_eq_append_iff.1 h with ⟨rest, rfl, hrest⟩ | ⟨rest, hrest, hafter⟩
    · exact hmore rest event after hrest
    · cases rest with
      | nil =>
        rw [List.append_nil] at hrest
        rw [← hrest, ← List.append_nil events]
        exact hmore [] event after hafter.symm
      | cons first rest =>
        obtain ⟨rfl, -⟩ := List.cons.inj hafter
        exact hevents before event rest hrest

/-- A single event has none before it. -/
theorem traced_singleton {event : PassEvent} : Traced P [event] ↔ P [] event := by
  constructor
  · intro h
    exact h [] event [] rfl
  · rintro h before event' after heq
    rcases before with _ | ⟨_, _ | _⟩ <;> cases heq
    exact h

/-- What holds of each event whatever was before holds of all in their order. -/
theorem traced_of_forall (h : ∀ before, ∀ event ∈ events, P before event) : Traced P events := by
  rintro before event after rfl
  exact h before event (by simp)

end

/-- A commit moves one stream of these workers forward, to where something was read since the scan
of the stream was opened. -/
def MovesOne (workers : List WorkerSpec) (held : CursorMap) (before : List PassEvent)
    (cursors : CursorMap) : Prop :=
  ∃ spec ∈ workers, held.position spec.stream < cursors.position spec.stream ∧
    (∀ other, other ≠ spec.stream → cursors.position other = held.position other) ∧
    ∃ front root answer scan,
      before = front ++
        .asked (.openScan spec.selection (held.position spec.stream) root) answer :: scan ∧
      (∀ event ∈ scan, event.Continues) ∧
      ∃ event ∈ scan, event.Reads (cursors.position spec.stream)

/-- Scans are opened where their streams stand in the store, and commits go forward from there. -/
def Forward (workers : List WorkerSpec) (held : CursorMap) (before : List PassEvent) :
    PassEvent → Prop
  | .asked (.openScan selection start _) _ =>
    ∃ spec ∈ workers, selection = spec.selection ∧
      start = (heldAfter held before).position spec.stream
  | .committed cursors _ => MovesOne workers (heldAfter held before) before cursors
  | _ => True

/-- No scan has shown anything after the cursor where it was opened. -/
def Quiet (events : List PassEvent) : Prop :=
  ∀ front selection start root answer scan later,
    events = front ++ .asked (.openScan selection start root) answer :: (scan ++ later) →
    (∀ event ∈ scan, event.Continues) → ∀ event ∈ scan, ∀ c, event.Reads c → ¬start < c

section

variable {workers : List WorkerSpec} {held : CursorMap} {events more : List PassEvent}

/-- What only goes on with a scan goes forward. -/
theorem Forward.of_continues {event : PassEvent} (h : event.Continues) (before : List PassEvent) :
    Forward workers held before event := by
  cases event with
  | asked call answer =>
    cases call with
    | openScan selection start root => exact absurd trivial h
    | _ => trivial
  | wrote batch answer => trivial
  | committed cursors answer => exact absurd h id

/-- What was read further to the front was read as well. -/
theorem MovesOne.behind {before : List PassEvent} {cursors : CursorMap}
    (h : MovesOne workers held before cursors) (earlier : List PassEvent) :
    MovesOne workers held (earlier ++ before) cursors := by
  obtain ⟨spec, hspec, hlt, hothers, front, root, answer, scan, rfl, hscan⟩ := h
  refine ⟨spec, hspec, hlt, hothers, earlier ++ front, root, answer, scan, ?_, hscan⟩
  rw [List.append_assoc]

/-- Two parts of a pass go forward if each does from where the store is then. -/
theorem traced_forward_append (hevents : Traced (Forward workers held) events)
    (hmore : Traced (Forward workers (heldAfter held events)) more) :
    Traced (Forward workers held) (events ++ more) := by
  refine traced_append.2 ⟨hevents, fun before event after h => ?_⟩
  have hevent := hmore before event after h
  cases event with
  | asked call answer =>
    cases call with
    | openScan selection start root => simpa only [Forward, heldAfter_append] using hevent
    | _ => trivial
  | wrote batch answer => trivial
  | committed cursors answer =>
    simp only [Forward, heldAfter_append] at hevent ⊢
    exact hevent.behind events

/-- A pass that sees nothing new commits nothing. -/
theorem uncommitted_of_quiet (h : Traced (Forward workers held) events) (hquiet : Quiet events) :
    Uncommitted events := by
  intro event hevent hcommitted
  cases event with
  | asked call answer => exact hcommitted
  | wrote batch answer => exact hcommitted
  | committed cursors answer =>
    obtain ⟨before, after, hsplit⟩ := List.append_of_mem hevent
    obtain ⟨spec, -, hlt, -, front, root, opened, scan, hbefore, hscan, event, hin,
      hread⟩ := h before _ after hsplit
    have hevents : events = front ++ .asked (.openScan spec.selection
        ((heldAfter held before).position spec.stream) root) opened ::
          (scan ++ .committed cursors answer :: after) := by
      rw [hsplit]
      conv_lhs => rw [hbefore]
      rw [List.append_assoc]
      rfl
    exact hquiet front _ _ root opened scan _ hevents hscan event hin _ hread hlt

end

/-- What a worker did in this part of a pass since it opened its scan. -/
def ScanOf (spec : WorkerSpec) (start : Cursor) (part scan : List PassEvent) : Prop :=
  ∃ front root answer, part = front ++ .asked (.openScan spec.selection start root) answer :: scan ∧
    (∀ event ∈ front, event.Continues) ∧ ∀ event ∈ scan, event.Continues

/-- The worker opens its scan once at most, and commits nothing. -/
def ScansOnce (spec : WorkerSpec) (start : Cursor) (part : List PassEvent) : Prop :=
  (∀ event ∈ part, event.Continues) ∨ ∃ scan, ScanOf spec start part scan

/-- A worker stands where it started, or further on where its scan has shown something. -/
def Reached (scan : List PassEvent) (start cursor : Cursor) : Prop :=
  cursor = start ∨ start < cursor ∧ ∃ event ∈ scan, event.Reads cursor

section

variable {spec : WorkerSpec} {start : Cursor} {part scan more : List PassEvent}

/-- A scan goes on as long as none is opened and nothing is committed. -/
theorem ScanOf.append (h : ScanOf spec start part scan)
    (hmore : ∀ event ∈ more, event.Continues) :
    ScanOf spec start (part ++ more) (scan ++ more) := by
  obtain ⟨front, root, answer, rfl, hfront, hscan⟩ := h
  refine ⟨front, root, answer, ?_, hfront, List.forall_mem_append.2 ⟨hscan, hmore⟩⟩
  rw [List.append_assoc]
  rfl

/-- A worker that has not come to its commit has committed nothing. -/
theorem ScansOnce.uncommitted (h : ScansOnce spec start part) : Uncommitted part := by
  rcases h with h | ⟨scan, front, root, answer, rfl, hfront, hscan⟩
  · exact uncommitted_of_continues h
  · rw [uncommitted_append]
    refine ⟨uncommitted_of_continues hfront, ?_⟩
    exact List.forall_mem_cons.2 ⟨id, uncommitted_of_continues hscan⟩

/-- A worker that opens its scan where its stream stands goes forward. -/
theorem ScansOnce.traced {workers : List WorkerSpec} {held : CursorMap} (hspec : spec ∈ workers)
    (h : ScansOnce spec (held.position spec.stream) part) : Traced (Forward workers held) part := by
  rcases h with h | ⟨scan, front, root, answer, rfl, hfront, hscan⟩
  · exact traced_of_forall fun before event hevent => .of_continues (h event hevent) before
  · have hheld : heldAfter held front = held :=
      heldAfter_of_uncommitted (uncommitted_of_continues hfront) held
    refine traced_append.2 ⟨?_, ?_⟩
    · exact traced_of_forall fun before event hevent => .of_continues (hfront event hevent) before
    · rw [← List.singleton_append, traced_append, traced_singleton]
      refine ⟨⟨spec, hspec, rfl, ?_⟩, ?_⟩
      · rw [List.append_nil, hheld]
      · exact traced_of_forall fun before event hevent => .of_continues (hscan event hevent) _

/-- A worker does not go back. -/
theorem Reached.le {cursor : Cursor} (h : Reached scan start cursor) : start ≤ cursor := by
  rcases h with h | h
  · exact h.ge
  · exact h.1.le

/-- What a scan has shown, it has shown for good. -/
theorem Reached.append {cursor : Cursor} (h : Reached scan start cursor) (more : List PassEvent) :
    Reached (scan ++ more) start cursor := by
  rcases h with h | ⟨hlt, event, hevent, hread⟩
  · exact .inl h
  · exact .inr ⟨hlt, event, List.mem_append_left _ hevent, hread⟩

/-- A worker that is raised to something its scan has shown is still where it may be. -/
theorem Reached.raise {w : Worker} (h : Reached scan start w.cursor) {c : Cursor}
    (hread : ∃ event ∈ scan, event.Reads c) : Reached scan start (w.raise c).cursor := by
  rcases w.cursor_raise c with hcursor | ⟨hlt, hcursor⟩
  · rwa [hcursor]
  · rw [hcursor]
    exact .inr ⟨h.le.trans_lt hlt, hread⟩

end

namespace Extraction

variable {ω ρ : Type}

/-- A worker that started somewhere, with what it did in this part of a pass. -/
structure Tracks (spec : WorkerSpec) (start : Cursor) (before part : List PassEvent)
    (x : Extraction (Logged ω)) : Prop where
  spec_eq : x.worker.spec = spec
  start_eq : x.worker.start = start
  events : x.world.events = before ++ part
  unopened : x.worker.phase = .idle → (∀ event ∈ part, event.Continues) ∧ x.worker.cursor = start
  opened : x.worker.phase ≠ .idle → ∃ scan, ScanOf spec start part scan ∧
    Reached scan start x.worker.cursor

variable {spec : WorkerSpec} {start : Cursor} {before part more : List PassEvent}
  {x x' : Extraction (Logged ω)} {source : Source ω} {decode : Decoder ρ} {page : Option (Page ρ)}

/-- A worker opens at most one scan. -/
theorem Tracks.scansOnce (h : Tracks spec start before part x) : ScansOnce spec start part := by
  by_cases hphase : x.worker.phase = .idle
  · exact .inl (h.unopened hphase).1
  · obtain ⟨scan, hscan, -⟩ := h.opened hphase
    exact .inr ⟨scan, hscan⟩

/-- A worker that has moved has done so to something its scan has shown. -/
theorem Tracks.reached (h : Tracks spec start before part x) (hmoved : x.worker.HasAdvanced) :
    ∃ scan, ScanOf spec start part scan ∧ ∃ event ∈ scan, event.Reads x.worker.cursor := by
  have hlt : start < x.worker.cursor := h.start_eq ▸ hmoved
  by_cases hphase : x.worker.phase = .idle
  · exact absurd (h.unopened hphase).2 hlt.ne'
  · obtain ⟨scan, hscan, hreached⟩ := h.opened hphase
    rcases hreached with heq | ⟨-, hread⟩
    · exact absurd heq hlt.ne'
    · exact ⟨scan, hscan, hread⟩

/-- A worker with an open scan asks about it, and stands where its scan then allows. -/
theorem Tracks.ask (h : Tracks spec start before part x) (hphase : x.worker.phase = .scanning)
    {c : SourceCall} (hc : ¬c.Opens) {answer : Outcome SourceError c.Answer} {t : Logged ω}
    (hask : source.logged.ask c x.world = (answer, t)) {w : Worker} (hsame : x.worker.IsSame w)
    (hphase' : w.phase ≠ .idle)
    (hcursor : ∀ scan, Reached scan start x.worker.cursor → .asked c answer ∈ scan →
      Reached scan start w.cursor) :
    Tracks spec start before (part ++ [.asked c answer]) ⟨w, t⟩ := by
  have hmore : ∀ event ∈ [PassEvent.asked c answer], event.Continues :=
    List.forall_mem_singleton.2 hc
  obtain ⟨scan, hscan, hreached⟩ := h.opened (by simp [hphase])
  refine ⟨hsame.spec.trans h.spec_eq, hsame.start.trans h.start_eq, ?_,
    fun hidle => absurd hidle hphase', fun _ => ⟨_, hscan.append hmore, ?_⟩⟩
  · rw [(Source.logged_ask hask).2, h.events, List.append_assoc]
  · exact hcursor _ (hreached.append _) (by simp)

/-- A worker that moves to the last fresh row of a page has seen that row. -/
theorem reached_yielding {w : Worker} {scan : List PassEvent} {rows fresh : List ChangeRow}
    {count records : Nat} (h : Reached scan start w.cursor) (hfresh : ∀ r ∈ fresh, r ∈ rows)
    (hread : .asked (.fetch count) (.ok rows) ∈ scan) :
    Reached scan start (w.yielding fresh records).cursor := by
  unfold Worker.yielding
  cases hlast : fresh.getLast? with
  | none => exact h
  | some last =>
    exact h.raise ⟨_, hread, last, hfresh last (List.mem_of_getLast? hlast), rfl⟩

/-- If a worker moves when it is told the greatest row, its probe has shown that row. -/
theorem reached_told {w : Worker} {scan : List PassEvent} {entity : Entity}
    {greatest : Option Cursor} (h : Reached scan start w.cursor)
    (hread : .asked (.probe entity) (.ok greatest) ∈ scan) :
    Reached scan start (w.told greatest).cursor := by
  cases greatest with
  | none => exact h
  | some c => exact h.raise ⟨_, hread, rfl⟩

/-- The worker that looks up behind its scan stands where it stood, or where it is told. -/
theorem Tracks.looks (h : Tracks spec start before part x) (hphase : x.worker.phase = .scanning)
    {w : Worker} {t : Logged ω} (hlooks : Looks source.logged x.worker x.world w t) :
    w.phase = .scanning ∧ ∃ part, Tracks spec start before part ⟨w, t⟩ := by
  cases hlooks with
  | past hnot => exact ⟨hphase, part, h⟩
  | @up greatest _ hempty hprobes hprobe =>
    have htold : (x.worker.told greatest).phase = .scanning :=
      (Worker.told_phase ..).trans hphase
    exact ⟨htold, _, h.ask hphase id hprobe (x.worker.isSame_told greatest) (by simp [hphase])
      fun _ hreached hread => reached_told hreached hread⟩

/-- The scan that a worker opens is its own, and nothing was done in it yet. -/
theorem Tracks.scanOf_opening (h : Tracks spec start before part x)
    (hphase : x.worker.phase = .idle)
    (answer : Outcome SourceError Unit) :
    ScanOf spec start (part ++
      [.asked (.openScan x.worker.spec.selection x.worker.start x.worker.root) answer]) [] := by
  rw [h.spec_eq, h.start_eq]
  exact ⟨part, x.worker.root, answer, rfl, (h.unopened hphase).1, by simp⟩

/-- A turn keeps a worker within what its scan allows. -/
theorem Tracks.turn (h : Tracks spec start before part x)
    (hturn : Turns source.logged decode x page x') : ∃ part, Tracks spec start before part x' := by
  have hsub (rows : List ChangeRow) : ∀ r ∈ x.worker.fresh rows, r ∈ rows := by
    intro r hr
    exact (List.mem_filter.1 hr).1
  have hpage {rows : List ChangeRow} {t t' : Logged ω} {records : List ρ}
      (hphase : x.worker.phase = .scanning)
      (hfetch : source.logged.ask (.fetch x.worker.pageSize) x.world = (.ok rows, t))
      (hrebuilds : Rebuilds source.logged decode x.worker.aggregate (x.worker.fresh rows) t records
        t') : ∃ part, Tracks spec start before part
          ⟨(x.worker.counting rows).yielding (x.worker.fresh rows) records.length, t'⟩ := by
    obtain ⟨docs, henrich, -⟩ := hrebuilds
    have hyielding := (x.worker.isSame_counting rows).trans
      (Worker.isSame_yielding _ (x.worker.fresh rows) records.length)
    have hfetched := h.ask hphase id hfetch hyielding (by simp [hphase])
      fun scan hreached hread => reached_yielding hreached (hsub rows) hread
    exact ⟨_, hfetched.ask (by simp [hphase]) id henrich (.refl _) (by simp [hphase])
      fun scan hreached _ => hreached⟩
  cases hturn with
  | done hphase => exact ⟨part, h⟩
  | opened hphase hopen =>
    obtain ⟨-, hevents⟩ := Source.logged_ask hopen
    rw [h.events, List.append_assoc] at hevents
    exact ⟨_, h.spec_eq, h.start_eq, hevents, (fun hidle => by cases hidle),
      fun _ => ⟨[], h.scanOf_opening hphase _, .inl (h.unopened hphase).2⟩⟩
  | passed hphase hfetch hstale hrows hfull =>
    exact ⟨_, h.ask hphase id hfetch (x.worker.isSame_counting _) (by simp [hphase])
      fun scan hreached _ => hreached⟩
  | @ended rows _ _ _ _ hphase hfetch hstale hlast hlooks hclose =>
    have hcounted := h.ask hphase id hfetch (x.worker.isSame_counting rows) (by simp [hphase])
      fun scan hreached _ => hreached
    obtain ⟨hphase', part', hlooked⟩ := hcounted.looks hphase hlooks
    exact ⟨_, hlooked.ask hphase' id hclose (Worker.isSame_ended ..) (by simp)
      fun scan hreached _ => hreached⟩
  | yielded hphase hfetch hfresh hfull hrebuilds => exact hpage hphase hfetch hrebuilds
  | yieldedLast hphase hfetch hfresh hlast hrebuilds hclose =>
    obtain ⟨part', hyielded⟩ := hpage hphase hfetch hrebuilds
    exact ⟨_, hyielded.ask (by simp [hphase]) id hclose (Worker.isSame_ended ..) (by simp)
      fun scan hreached _ => hreached⟩

/-- A turn that fails has opened no second scan. -/
theorem Tracks.stumble (h : Tracks spec start before part x) (hx : Stumbles source.logged x x') :
    ∃ part, x'.world.events = before ++ part ∧ ScansOnce spec start part := by
  have hopened (hphase : x.worker.phase = .scanning) :
      ∃ part, x'.world.events = before ++ part ∧ ScansOnce spec start part := by
    obtain ⟨more, hevents, hmore⟩ := (hx.asks hphase).events
    obtain ⟨scan, hscan, -⟩ := h.opened (by simp [hphase])
    rw [h.events, List.append_assoc] at hevents
    refine ⟨_, hevents, .inr ⟨_, hscan.append fun event hevent => ?_⟩⟩
    obtain ⟨c, answer, hc, rfl⟩ := hmore event hevent
    exact hc
  cases hx with
  | opening hphase hopen =>
    obtain ⟨-, hevents⟩ := Source.logged_ask hopen
    rw [h.events, List.append_assoc] at hevents
    exact ⟨_, hevents, .inr ⟨[], h.scanOf_opening hphase _⟩⟩
  | fetching hphase _ | ending hphase _ _ _ | yielding hphase _ _ _ => exact hopened hphase

/-- Batches are written while the worker stays where it is. -/
theorem Tracks.wrote (h : Tracks spec start before part x) (batch : Batch)
    (answer : Outcome LoadError LoadResult) (world : ω) :
    Tracks spec start before (part ++ [.wrote batch answer])
      ⟨x.worker, ⟨world, x.world.events ++ [.wrote batch answer]⟩⟩ := by
  have hmore : ∀ event ∈ [PassEvent.wrote batch answer], event.Continues := by
    simp [PassEvent.Continues]
  refine ⟨h.spec_eq, h.start_eq, ?_, fun hidle => ?_, fun hphase => ?_⟩
  · rw [h.events, List.append_assoc]
  · obtain ⟨hpart, hcursor⟩ := h.unopened hidle
    exact ⟨List.forall_mem_append.2 ⟨hpart, hmore⟩, hcursor⟩
  · obtain ⟨scan, hscan, hreached⟩ := h.opened hphase
    exact ⟨_, hscan.append hmore, hreached.append _⟩

end Extraction

namespace Pipeline

open Extraction

variable {ω ρ : Type} (p : Pipeline ω ρ) (source : Source ω) (store : Store ω) (allowance : Nat)

/-- A worker keeps within what its scan allows while it is drained. -/
theorem drainRule_tracks (spec : WorkerSpec) (start : Cursor) (before : List PassEvent) :
    p.logged.DrainRule source.logged spec.stream allowance
      (fun _ _ x => ∃ part, Tracks spec start before part x) (fun _ => True)
      (fun _ x => ∃ part, x.world.events = before ++ part ∧ ScansOnce spec start part) where
  page placed x hx := by
    refine (ends_nextPage_kept (F := fun x => ∃ part, x.world.events = before ++ part ∧
      ScansOnce spec start part) (fun y page z hy hturn => ?_) (fun y z hy hz => ?_)
      (fun y hy => ?_) allowance hx).mono (fun page y hy => ⟨hy.1, fun _ _ => trivial⟩)
      fun _ y hy => hy
    · obtain ⟨part, hy⟩ := hy
      exact hy.turn hturn
    · obtain ⟨part, hy⟩ := hy
      exact hy.stumble hz
    · obtain ⟨part, hy⟩ := hy
      exact ⟨part, hy.events, hy.scansOnce⟩
  place record hand placed entry x hx _ := hx
  refuse record hand placed e x hx _ := by
    obtain ⟨part, hx⟩ := hx
    exact ⟨part, hx.events, hx.scansOnce⟩
  write hand batch placed x hx := by
    obtain ⟨part, hx⟩ := hx
    refine Logged.ends_call (fun result world => ?_) (fun e world => ?_) fun world => ?_
    · split
      · exact ⟨_, hx.wrote batch (.ok result) world⟩
      · have hwrote := hx.wrote batch (.ok result) world
        exact ⟨_, hwrote.events, hwrote.scansOnce⟩
    · have hwrote := hx.wrote batch (.error e) world
      exact ⟨_, hwrote.events, hwrote.scansOnce⟩
    · have hwrote := hx.wrote batch .unfinished world
      exact ⟨_, hwrote.events, hwrote.scansOnce⟩
  unfinished placed x hx := by
    obtain ⟨part, hx⟩ := hx
    exact ⟨part, hx.events, hx.scansOnce⟩

/-- A drained worker started where its stream stands, and stands where its scan allows. -/
theorem ends_drain_tracks (spec : WorkerSpec) (st : PassState (Logged ω)) :
    (p.logged.drain source.logged spec allowance).Ends
      (fun w st' => st'.book.cursors = st.book.cursors ∧ ∃ part,
        Tracks spec (st.book.position spec.stream) st.book.world.events part ⟨w, st'.book.world⟩)
      (fun _ st' => st'.book.cursors = st.book.cursors ∧ ∃ part,
        st'.book.world.events = st.book.world.events ++ part ∧
          ScansOnce spec (st.book.position spec.stream) part) st := by
  have hstart : Tracks spec (st.book.position spec.stream) st.book.world.events []
      ⟨p.logged.workerOf spec st.book.cursors, st.book.world⟩ :=
    ⟨rfl, rfl, (List.append_nil _).symm, fun _ => ⟨by simp, rfl⟩, fun h => absurd rfl h⟩
  have hrule := p.drainRule_tracks source allowance spec (st.book.position spec.stream)
    st.book.world.events
  refine (hrule.ends_drain ⟨_, hstart⟩).mono ?_ ?_
  · rintro w st' ⟨hcursors, -, part, hw⟩
    exact ⟨hcursors, part, hw⟩
  · rintro e st' ⟨hcursors, w, part, hevents, hscan⟩
    exact ⟨hcursors, part, hevents, hscan⟩

/-- From a store that stands as the book does a part of the pass has gone forward, and the store
stands as the book does again. -/
def GoesForward (workers : List WorkerSpec) (held : CursorMap) (st st' : PassState (Logged ω)) :
    Prop :=
  ∃ events, st'.book.world.events = st.book.world.events ++ events ∧
    Traced (Forward workers held) events ∧
    ∀ s, (heldAfter held events).position s = st'.book.position s

variable {workers : List WorkerSpec} {held : CursorMap} {st : PassState (Logged ω)}

/-- A worker that only scans leaves the store where it is. -/
theorem goesForward_of_scansOnce {spec : WorkerSpec} (hspec : spec ∈ workers)
    (hheld : ∀ s, held.position s = st.book.position s) {part : List PassEvent}
    (hscan : ScansOnce spec (st.book.position spec.stream) part) {st' : PassState (Logged ω)}
    (hcursors : st'.book.cursors = st.book.cursors)
    (hevents : st'.book.world.events = st.book.world.events ++ part) :
    GoesForward workers held st st' := by
  refine ⟨part, hevents, ?_, fun s => ?_⟩
  · rw [← hheld] at hscan
    exact hscan.traced hspec
  · rw [heldAfter_of_uncommitted hscan.uncommitted, hheld, Book.position, Book.position, hcursors]

/-- The cursor that a worker hands to the store moves its stream forward, and no other. -/
theorem movesOne_insert {spec : WorkerSpec} (hspec : spec ∈ workers)
    (hheld : ∀ s, held.position s = st.book.position s) {part : List PassEvent} {w : Worker}
    {t : Logged ω}
    (hw : Tracks spec (st.book.position spec.stream) st.book.world.events part ⟨w, t⟩)
    (hmoved : w.HasAdvanced) :
    MovesOne workers held part (st.book.cursors.insert spec.stream (some w.cursor)) := by
  have hposition : CursorMap.position (st.book.cursors.insert spec.stream (some w.cursor))
      spec.stream = w.cursor := by
    rw [CursorMap.position_insert, if_pos rfl]
  obtain ⟨scan, ⟨front, root, answer, hpart, -, hscan⟩, hread⟩ := hw.reached hmoved
  have hlt : st.book.position spec.stream < w.cursor := by
    rw [← hw.start_eq]
    exact hmoved
  refine ⟨spec, hspec, ?_, fun other hother => ?_, front, root, answer, scan, ?_, hscan, ?_⟩
  · rwa [hposition, hheld]
  · rw [CursorMap.position_insert, if_neg hother, hheld]
    rfl
  · rw [hheld]
    exact hpart
  · rwa [hposition]

/-- A worker goes forward, whether or not its commit succeeds: the commit comes behind the scan, and
takes the stream to where the scan has led. -/
theorem ends_runWorker_forward {spec : WorkerSpec} (hspec : spec ∈ workers)
    (hheld : ∀ s, held.position s = st.book.position s) :
    (p.logged.runWorker source.logged store.logged spec allowance).Ends
      (fun _ st' => GoesForward workers held st st') (fun _ st' => GoesForward workers held st st')
      st := by
  rw [ends_runWorker]
  refine (p.ends_drain_tracks source allowance spec st).mono ?_ ?_
  · rintro w st' ⟨hcursors, part, hw⟩
    split
    · next hmoved =>
      have hmoves := movesOne_insert hspec hheld hw hmoved
      have hpart : Traced (Forward workers held) part := by
        have hscan := hw.scansOnce
        rw [← hheld] at hscan
        exact hscan.traced hspec
      have hkept : heldAfter held part = held :=
        heldAfter_of_uncommitted hw.scansOnce.uncommitted held
      have htraced (answer : Except StateError Unit) : Traced (Forward workers held)
          (part ++ [.committed (st.book.cursors.insert spec.stream (some w.cursor)) answer]) := by
        rw [traced_append, traced_singleton]
        refine ⟨hpart, ?_⟩
        rw [List.append_nil]
        change MovesOne workers (heldAfter held part) part _
        rwa [hkept]
      rcases hcommit : store.commit (st.book.cursors.insert spec.stream (some w.cursor))
        st'.book.world.world with ⟨cause | _, world⟩ <;> simp only [Store.logged, hcommit]
      · refine ⟨_, ?_, htraced (.error cause), fun s => ?_⟩
        · rw [hw.events, List.append_assoc]
        · rw [heldAfter_append, hkept]
          exact hheld s
      · refine ⟨_, ?_, htraced (.ok ()), fun s => ?_⟩
        · rw [hw.events, List.append_assoc]
        · rw [heldAfter_append]
          rfl
    · exact goesForward_of_scansOnce hspec hheld hw.scansOnce hcursors hw.events
  · rintro e st' ⟨hcursors, part, hevents, hscan⟩
    exact goesForward_of_scansOnce hspec hheld hscan hcursors hevents

/-- So does one whose scan is released behind a failure. -/
theorem GoesForward.release {st' : PassState (Logged ω)} (h : GoesForward workers held st st') :
    GoesForward workers held st { st' with
      book := { st'.book with world := (source.logged.ask .closeScan st'.book.world).2 } } := by
  obtain ⟨events, hevents, htraced, hpositions⟩ := h
  have hclosed : (source.logged.ask .closeScan st'.book.world).2.events = st.book.world.events ++
      (events ++ [.asked .closeScan (source.ask .closeScan st'.book.world.world).1]) := by
    rw [← List.append_assoc, ← hevents]
    rfl
  refine ⟨_, hclosed, ?_, fun s => ?_⟩
  · exact traced_forward_append htraced (traced_singleton.2 trivial)
  · rw [heldAfter_append]
    exact hpositions s

/-- Workers go forward one after the other. -/
theorem ends_runAll_forward (st : PassState (Logged ω)) (specs : List WorkerSpec)
    (hspecs : ∀ spec ∈ specs, spec ∈ workers)
    (hheld : ∀ s, held.position s = st.book.position s) :
    (p.logged.runAll source.logged store.logged allowance specs).Ends
      (fun _ st' => GoesForward workers held st st') (fun _ st' => GoesForward workers held st st')
      st := by
  induction specs generalizing held st with
  | nil => exact Call.ends_pure.2 ⟨[], (List.append_nil _).symm, traced_nil, hheld⟩
  | cons spec rest ih =>
    have hspec := hspecs spec List.mem_cons_self
    rw [runAll, Call.ends_bind, ends_runGuarded]
    refine (p.ends_runWorker_forward source store allowance hspec hheld).mono
      (fun _ st' h => ?_) fun e st' h => ?_
    · obtain ⟨events, hevents, htraced, hpositions⟩ := h
      have hrest {st'' : PassState (Logged ω)}
          (h : GoesForward workers (heldAfter held events) st' st'') :
          GoesForward workers held st st'' := by
        obtain ⟨more, hmore, htraced', hpositions'⟩ := h
        refine ⟨events ++ more, ?_, traced_forward_append htraced htraced', fun s => ?_⟩
        · rw [hmore, hevents, List.append_assoc]
        · rw [heldAfter_append]
          exact hpositions' s
      exact (ih st' (fun s hs => hspecs s (List.mem_cons_of_mem _ hs)) hpositions).mono
        (fun _ _ => hrest) fun _ _ => hrest
    · split
      · exact h.release source
      · exact h

/-- A pass goes forward from where its store stands, if the book stands there too. -/
theorem execute_forward (cursors : CursorMap) (world : ω)
    (hheld : ∀ s, held.position s = cursors.position s) :
    let after := (p.logged.execute source.logged store.logged allowance ⟨cursors, ⟨world, []⟩⟩).2
    Traced (Forward p.workers held) after.world.events ∧
      ∀ s, (heldAfter held after.world.events).position s = after.position s := by
  intro after
  have hends : (p.logged.execute source.logged store.logged allowance).Ends
      (fun _ b => Traced (Forward p.workers held) b.world.events ∧
        ∀ s, (heldAfter held b.world.events).position s = b.position s)
      (fun _ b => Traced (Forward p.workers held) b.world.events ∧
        ∀ s, (heldAfter held b.world.events).position s = b.position s)
      ⟨cursors, ⟨world, []⟩⟩ := by
    rw [ends_execute]
    refine (p.ends_runAll_forward source store allowance ⟨⟨cursors, ⟨world, []⟩⟩, .zero⟩
      p.workers (fun _ => id) hheld).mono (fun _ st h => ?_) fun _ st h => ?_
    all_goals
      obtain ⟨events, hevents, h⟩ := h
      rw [List.nil_append] at hevents
      rw [hevents]
      exact h
  exact hends.left

end Pipeline

end CatalogSync
