import CatalogSync.Daemon.Pipelines
import CatalogSync.Proofs.Pass.Forward
import CatalogSync.Proofs.Schedule.Recorded

/-!
# Cycles go forward

Whatever the sources and the loaders of a run do, its store is only ever handed maps in which one
stream has moved forward from where the store has it, and that stream is one of the pipeline that is
running. The book stands where the store does between the passes, so each of them starts from there.
-/

namespace CatalogSync

/-- Passes that went forward, from a store that held this map: what was handed to the store is
compared with what it was last given successfully, or held at first. -/
structure GoForward (m : CursorMap) (passes : List PassRecord) : Prop where
  /-- A commit moves exactly one stream, one of the pipeline of the pass, and moves it forward. -/
  commits : ∀ earlier pass later before cursors answer after, passes = earlier ++ pass :: later →
    pass.events = before ++ .committed cursors answer :: after →
    ∃ stream ∈ pass.streams,
      (heldAfter m (eventsOf earlier ++ before)).position stream < cursors.position stream ∧
      ∀ other, other ≠ stream →
        cursors.position other = (heldAfter m (eventsOf earlier ++ before)).position other
  /-- A scan is opened where the stream of its worker stands. -/
  scans : ∀ earlier pass later before selection start root answer after,
    passes = earlier ++ pass :: later →
    pass.events = before ++ .asked (.openScan selection start root) answer :: after →
    ∃ spec ∈ pass.workers, selection = spec.selection ∧
      start = (heldAfter m (eventsOf earlier ++ before)).position spec.stream
  /-- A pass in which no scan shows anything behind the cursor it is opened at commits nothing. -/
  quiet : ∀ pass ∈ passes, Quiet pass.events → Uncommitted pass.events

variable {ω : Type} {bs : List (Bound ω)} {m : CursorMap}

/-- Every pass so far belonged to one of the pipelines and went forward, and the book stands where
the store does. -/
structure Recorded.Sound (bs : List (Bound ω)) (m : CursorMap) (book : Book (Recorded ω)) :
    Prop where
  owned : ∀ pass ∈ book.world.passes, ∃ b ∈ bs, pass.name = b.pipeline.name ∧
    pass.workers = b.pipeline.workers
  traced : ∀ earlier pass later, book.world.passes = earlier ++ pass :: later →
    Traced (Forward pass.workers (heldAfter m (eventsOf earlier))) pass.events
  position : ∀ s, (heldAfter m (eventsOf book.world.passes)).position s = book.position s

/-- One pass more. -/
theorem Recorded.Sound.pass {book : Book (Recorded ω)} (h : Recorded.Sound bs m book) {b : Bound ω}
    (hb : b ∈ bs) (store : Store ω) :
    Recorded.Sound bs m ((b.recordedJob store).execute book).2 := by
  obtain ⟨htraced, hposition⟩ := b.pipeline.execute_forward b.source store b.allowance book.cursors
    book.world.world h.position
  constructor
  · intro pass hpass
    rcases List.mem_append.1 hpass with hpass | hpass
    · exact h.owned pass hpass
    · rw [List.mem_singleton.1 hpass]
      exact ⟨b, hb, rfl, rfl⟩
  · intro earlier pass later hsplit
    rcases later.eq_nil_or_concat with rfl | ⟨more, last, rfl⟩
    · obtain ⟨hearlier, hlast⟩ := List.append_inj' hsplit rfl
      obtain rfl := (List.cons.inj hlast).1
      rw [← hearlier]
      exact htraced
    · rw [List.concat_eq_append, ← List.cons_append, ← List.append_assoc] at hsplit
      exact h.traced earlier pass more (List.append_inj' hsplit rfl).1
  · intro s
    change (heldAfter m (eventsOf (book.world.passes ++ [_]))).position s = _
    rw [eventsOf_append, heldAfter_append, eventsOf_singleton]
    exact hposition s

/-- Passes that are traced one by one go forward. -/
theorem Recorded.Sound.goForward {book : Book (Recorded ω)} (h : Recorded.Sound bs m book) :
    GoForward m book.world.passes where
  commits earlier pass later before cursors answer after hpasses hevents := by
    obtain ⟨spec, hspec, hlt, hothers, -⟩ :=
      h.traced earlier pass later hpasses before _ after hevents
    rw [← heldAfter_append] at hlt hothers
    exact ⟨spec.stream, List.mem_map_of_mem hspec, hlt, hothers⟩
  scans earlier pass later before selection start root answer after hpasses hevents := by
    obtain ⟨spec, hspec, hselection, hstart⟩ :=
      h.traced earlier pass later hpasses before _ after hevents
    rw [← heldAfter_append] at hstart
    exact ⟨spec, hspec, hselection, hstart⟩
  quiet pass hpass hquiet := by
    obtain ⟨earlier, later, hpasses⟩ := List.append_of_mem hpass
    exact uncommitted_of_quiet (h.traced earlier pass later hpasses) hquiet

namespace Scheduler

/-- However often the pipelines of a scheduler are run, and whatever becomes of their passes: every
map that is handed to the store moves one stream of the running pipeline forward and no other, from
where it stands in the map that the store was last given successfully, or that was loaded at first.
A worker that has moved is never refused by the book for going back, nor told that it stands there
already: what the book answers is what the store answers. A pass that sees nothing new commits
nothing. -/
theorem cycles_go_forward (store : Store ω) (clock : Clock ω) (bs : List (Bound ω)) {world : ω}
    {m : CursorMap} (hload : store.load world = .ok m) (n : Nat) :
    ∃ s recorded, start? store (bs.map (Bound.job store)) world = .ok s ∧
      start? store.recorded (bs.map (Bound.recordedJob store)) ⟨world, []⟩ = .ok recorded ∧
      cycled clock n s = plain store bs (cycled clock.recorded n recorded) ∧
      (∀ pass ∈ (cycled clock.recorded n recorded).book.world.passes, ∃ b ∈ bs,
        pass.name = b.pipeline.name ∧ pass.workers = b.pipeline.workers) ∧
      GoForward m (cycled clock.recorded n recorded).book.world.passes ∧
      ∀ b ∈ bs, ∀ spec st w st',
        b.pipeline.drain b.source spec b.allowance st = (.ok w, st') → w.HasAdvanced →
        (st'.book.advance store w.spec.stream w.cursor).1 ≠ .ok false ∧
        ∀ e, (st'.book.advance store w.spec.stream w.cursor).1 = .error e →
          (store.commit (st'.book.cursors.insert w.spec.stream (some w.cursor)) st'.book.world).1 =
            .error e := by
  obtain ⟨recorded, hrecorded, hplain, hjobs, hpasses, hposition⟩ := plain_start bs hload
  have hstart : Recorded.Sound bs m recorded.book := by
    constructor
    · rw [hpasses]
      simp
    · rw [hpasses]
      intro earlier pass later hnil
      cases earlier <;> cases hnil
    · intro s
      rw [hpasses]
      exact (hposition s).symm
  have hkeeps : ∀ job ∈ bs.map (Bound.recordedJob store), ∀ book, Recorded.Sound bs m book →
      Recorded.Sound bs m (job.execute book).2 := by
    intro job hjob book hbook
    obtain ⟨b, hb, rfl⟩ := List.mem_map.1 hjob
    exact hbook.pass hb store
  obtain ⟨hsound, -⟩ := cycled_keeps clock.recorded hkeeps n hstart hjobs
  refine ⟨_, recorded, hplain, hrecorded, plain_cycled n hjobs, hsound.owned, hsound.goForward, ?_⟩
  intro b hb spec st w st' hdrain hmoved
  rw [Pipeline.advance_of_drained hdrain hmoved]
  rcases store.commit (st'.book.cursors.insert w.spec.stream (some w.cursor)) st'.book.world
    with ⟨e | _, after⟩ <;> simp

/-- A source that has its rows the wrong way round, and no aggregates behind them. -/
def unruly : Source MemoryStore where
  ask
    | .fetch _, w => (.ok [⟨"b", .first, "b"⟩, ⟨"a", .first, "a"⟩], w)
    | .probe _, w => (.ok none, w)
    | .enrich .., w => (.ok [], w)
    | .openScan .., w => (.ok (), w)
    | .closeScan, w => (.ok (), w)
    | .ping, w => (.ok (), w)

/-- The genres of an unruly source. -/
def unrulyGenres : Bound MemoryStore where
  Record := GenreRecord
  pipeline :=
    { name := "genres"
      aggregate := .genre
      workers := [.root "genre" .genre]
      decode := GenreRecord.decode
      transform := fun r => passDocument GenreDocument.toDocument r.transform
      loader := ⟨"genres", 10, pure (), fun batch => pure ⟨batch.length, batch.length⟩⟩
      pageSize := 3 }
  source := unruly
  allowance := 10

/-- A clock that stands still. -/
def stopped : Clock MemoryStore := ⟨fun _ => 0, fun _ => false, fun _ w => (false, w), fun _ w => w⟩

/-- The first cycle gets to the row that is listed last, the second to the other one, and the third
commits nothing. -/
theorem cycles_go_forward_unruly :
    ∃ recorded, start? MemoryStore.store.recorded
        ([unrulyGenres].map (Bound.recordedJob MemoryStore.store)) ⟨.ofCursors ∅, []⟩ =
          .ok recorded ∧
      (cycled stopped.recorded 1 recorded).book.position "genre" = .ofRow .first "a" ∧
      (cycled stopped.recorded 3 recorded).book.position "genre" = .ofRow .first "b" ∧
      (cycled stopped.recorded 3 recorded).book.world.world.commits = 2 ∧
      GoForward ∅ (cycled stopped.recorded 3 recorded).book.world.passes := by
  have hload : MemoryStore.store.load (.ofCursors ∅) = .ok ∅ := rfl
  obtain ⟨-, recorded, -, hrecorded, -, -, hforward, -⟩ :=
    cycles_go_forward MemoryStore.store stopped [unrulyGenres] hload 3
  have hload' : MemoryStore.store.recorded.load ⟨.ofCursors ∅, []⟩ = .ok ∅ := rfl
  have hstart := start?_eq MemoryStore.store.recorded
    ([unrulyGenres].map (Bound.recordedJob MemoryStore.store)) hload'
  obtain rfl := Except.ok.inj (hstart.symm.trans hrecorded)
  exact ⟨_, hrecorded, by decide +kernel, by decide +kernel, by decide +kernel, hforward⟩

end Scheduler

end CatalogSync
