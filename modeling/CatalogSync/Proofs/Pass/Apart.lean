import CatalogSync.Proofs.Pass.Commit
import CatalogSync.Proofs.Pass.Log

/-!
# Pipelines that share a store

The store of the cursors is shared: every commit replaces the map of all streams. A pass still reads
and moves the streams of its own pipeline only. From two books that agree on these streams it goes
alike (`execute_alike`), and every other stream stays where it stands, in the book and in the store.
-/

namespace CatalogSync

/-- A world with the map that a store holds in it, and everything else. -/
structure Kept (ω : Type) where
  world : ω
  held : CursorMap

variable {ω ρ : Type}

/-- A store whose commits replace its map as a whole or fail, as everything else in the world has
it. -/
def Kept.store (answer : CursorMap → ω → Except StateError Unit × ω) : Store (Kept ω) where
  load t := .ok t.held
  commit m t :=
    match answer m t.world with
    | (.ok (), world) => (.ok (), ⟨world, m⟩)
    | (.error e, world) => (.error e, { t with world })

/-- Whether a commit fails, and what it leaves besides the map, depends on these streams only: in
runs that agree on them the store behaves in the same way. -/
def Kept.Blind (streams : List String) (answer : CursorMap → ω → Except StateError Unit × ω) :
    Prop :=
  ∀ m m' : CursorMap, (∀ s ∈ streams, m'.position s = m.position s) → answer m' = answer m

def Source.kept (source : Source ω) : Source (Kept ω) :=
  source.within Kept.world fun world t => { t with world }

def Loader.kept (loader : Loader ω) : Loader (Kept ω) :=
  loader.within Kept.world fun world t => { t with world }

/-- The pipeline in a world with a store. -/
def Pipeline.kept (p : Pipeline ω ρ) : Pipeline (Kept ω) ρ := p.withLoader p.loader.kept

/-- In the store every stream stands where it stands in the book. -/
def Book.IsKept (b : Book (Kept ω)) : Prop :=
  ∀ s, CursorMap.position b.world.held s = b.position s

/-- The store still holds the book, and no stream but these has moved. -/
structure Book.MovesOnly (streams : List String) (b b' : Book (Kept ω)) : Prop where
  kept : b'.IsKept
  others : ∀ s, s ∉ streams → b'.position s = b.position s

namespace Book.MovesOnly

variable {streams streams' : List String} {b b' b'' : Book (Kept ω)}

/-- A book that stays moves no stream. -/
theorem refl (streams : List String) (h : b.IsKept) : b.MovesOnly streams b := ⟨h, fun _ _ => rfl⟩

/-- Streams that are moved by neither of two steps are not moved. -/
theorem trans (h : b.MovesOnly streams b') (h' : b'.MovesOnly streams b'') :
    b.MovesOnly streams b'' where
  kept := h'.kept
  others s hs := (h'.others s hs).trans (h.others s hs)

/-- The store has not moved another stream either. -/
theorem held (h : b.MovesOnly streams b') (hb : b.IsKept) {s : String} (hs : s ∉ streams) :
    CursorMap.position b'.world.held s = CursorMap.position b.world.held s := by
  rw [h.kept, hb, h.others s hs]

end Book.MovesOnly

namespace Pipeline

variable {p : Pipeline ω ρ} {source : Source ω}
  {answer : CursorMap → ω → Except StateError Unit × ω}
  {allowance : Nat} {spec : WorkerSpec}

/-- Draining a worker depends on the book only in where the worker starts. -/
theorem drain_congr {st st' : PassState ω}
    (hworker : p.workerOf spec st'.book.cursors = p.workerOf spec st.book.cursors)
    (hworld : st'.book.world = st.book.world) (hreport : st'.report = st.report) :
    p.drain source spec allowance st' = ((p.drain source spec allowance st).1,
      ⟨⟨st'.book.cursors, (p.drain source spec allowance st).2.book.world⟩,
        (p.drain source spec allowance st).2.report⟩) := by
  simp only [drain, hworker, hworld, hreport]

/-- Draining a worker leaves the store alone. -/
theorem drain_kept (p : Pipeline ω ρ) (source : Source ω) (spec : WorkerSpec) (allowance : Nat)
    (st : PassState (Kept ω)) :
    p.kept.drain source.kept spec allowance st =
      ((p.drain source spec allowance (st.onPart Kept.world)).1,
        ⟨⟨st.book.cursors, ⟨(p.drain source spec allowance (st.onPart Kept.world)).2.book.world,
          st.book.world.held⟩⟩,
          (p.drain source spec allowance (st.onPart Kept.world)).2.report⟩) := by
  have hsource : source.Mirrors (Kept.mk · st.book.world.held) source.kept := fun _ _ => rfl
  have hloader : p.loader.Mirrors (Kept.mk · st.book.world.held) p.kept.loader :=
    ⟨rfl, fun _ _ => rfl⟩
  exact mirrors_drain hsource hloader spec allowance (st.onPart Kept.world)

/-- The worker of a stream reads no cursor of another pipeline. -/
theorem workerOf_congr {m m' : CursorMap} (hspec : spec ∈ p.workers)
    (h : ∀ s ∈ p.streams, m'.position s = m.position s) :
    p.workerOf spec m' = p.workerOf spec m := by
  have hroot : p.rootCursor m' = p.rootCursor m := by
    unfold rootCursor
    cases hfind : p.workers.find? (!·.isRelated) with
    | none => rfl
    | some root =>
      have hmem : root.stream ∈ p.streams :=
        List.mem_map_of_mem (List.mem_of_find?_eq_some hfind)
      exact congrArg some (h _ hmem)
  rw [workerOf, workerOf, hroot, h _ (List.mem_map_of_mem hspec)]

/-- The passes stand alike for a pipeline with these streams: only where other streams stand may
differ. -/
structure Alike (streams : List String) (st st' : PassState (Kept ω)) : Prop where
  world : st'.book.world.world = st.book.world.world
  report : st'.report = st.report
  position : ∀ s ∈ streams, st'.book.position s = st.book.position s

variable {st st' : PassState (Kept ω)}

/-- The commit of a worker that moved is answered by the rest of the world. -/
theorem commit_kept {w : Worker} (hstart : w.start = st.book.position w.spec.stream)
    (hmoved : w.HasAdvanced) :
    PassState.commit (Kept.store answer) w st =
      match answer (st.book.cursors.insert w.spec.stream (some w.cursor)) st.book.world.world with
      | (.ok (), world) =>
        (.ok (), ⟨⟨st.book.cursors.insert w.spec.stream (some w.cursor),
          ⟨world, st.book.cursors.insert w.spec.stream (some w.cursor)⟩⟩,
          { st.report with streamsCommitted := st.report.streamsCommitted + 1 }⟩)
      | (.error e, world) =>
        (.error (.state e), ⟨⟨st.book.cursors, { st.book.world with world }⟩, st.report⟩) := by
  have hlt : st.book.position w.spec.stream < w.cursor := by
    rw [← hstart]
    exact hmoved
  simp only [PassState.commit, if_pos hmoved, Book.advance_of_lt _ hlt, Kept.store]
  rcases answer (st.book.cursors.insert w.spec.stream (some w.cursor)) st.book.world.world
    with ⟨_ | _, _⟩ <;> rfl

/-- A commit is made or refused alike, and leaves the passes alike. -/
theorem Alike.commit {streams : List String} (h : Alike streams st st')
    (hblind : Kept.Blind streams answer) {w : Worker} (hstream : w.spec.stream ∈ streams)
    (hstart : w.start = st.book.position w.spec.stream) :
    (PassState.commit (Kept.store answer) w st').1 =
        (PassState.commit (Kept.store answer) w st).1 ∧
      Alike streams (PassState.commit (Kept.store answer) w st).2
        (PassState.commit (Kept.store answer) w st').2 := by
  have hstart' : w.start = st'.book.position w.spec.stream :=
    hstart.trans (h.position _ hstream).symm
  by_cases hmoved : w.HasAdvanced
  · have hpositions : ∀ s ∈ streams,
        CursorMap.position (st'.book.cursors.insert w.spec.stream (some w.cursor)) s =
          CursorMap.position (st.book.cursors.insert w.spec.stream (some w.cursor)) s := by
      intro s hs
      rw [CursorMap.position_insert, CursorMap.position_insert]
      split
      · rfl
      · exact h.position s hs
    rw [commit_kept hstart hmoved, commit_kept hstart' hmoved, hblind _ _ hpositions, h.world]
    rcases answer (st.book.cursors.insert w.spec.stream (some w.cursor)) st.book.world.world
      with ⟨e | _, world⟩
    · exact ⟨rfl, rfl, h.report, h.position⟩
    · refine ⟨rfl, rfl, ?_, hpositions⟩
      simp only [h.report]
  · have hstood (t : PassState (Kept ω)) :
        PassState.commit (Kept.store answer) w t = (.ok (), t) := if_neg hmoved
    rw [hstood st, hstood st']
    exact ⟨rfl, h⟩

section

variable (source allowance)
variable (hblind : Kept.Blind p.streams answer) (hspec : spec ∈ p.workers)
  (h : Alike p.streams st st')

include hblind hspec h

/-- A worker runs alike in passes that are alike. -/
theorem Alike.runWorker :
    (p.kept.runWorker source.kept (Kept.store answer) spec allowance st').1 =
        (p.kept.runWorker source.kept (Kept.store answer) spec allowance st).1 ∧
      Alike p.streams (p.kept.runWorker source.kept (Kept.store answer) spec allowance st).2
        (p.kept.runWorker source.kept (Kept.store answer) spec allowance st').2 := by
  have hdrain := p.drain_kept source spec allowance st
  have hdrain' := p.drain_kept source spec allowance st'
  have hworker : p.workerOf spec (st'.onPart Kept.world).book.cursors =
      p.workerOf spec (st.onPart Kept.world).book.cursors := workerOf_congr hspec h.position
  rw [drain_congr hworker h.world h.report] at hdrain'
  have hsame := p.ends_drain_isSame source spec allowance (st.onPart Kept.world)
  rcases hrun : p.drain source spec allowance (st.onPart Kept.world) with ⟨outcome, after⟩
  rw [hrun] at hdrain hdrain'
  have hafter : Alike p.streams
      ⟨⟨st.book.cursors, ⟨after.book.world, st.book.world.held⟩⟩, after.report⟩
      ⟨⟨st'.book.cursors, ⟨after.book.world, st'.book.world.held⟩⟩, after.report⟩ :=
    ⟨rfl, rfl, h.position⟩
  rw [Pipeline.runWorker]
  cases outcome with
  | error e =>
    rw [Call.bind_of_error hdrain, Call.bind_of_error hdrain']
    exact ⟨rfl, hafter⟩
  | unfinished =>
    rw [Call.bind_of_unfinished hdrain, Call.bind_of_unfinished hdrain']
    exact ⟨rfl, hafter⟩
  | ok w =>
    rw [Call.bind_of_ok hdrain, Call.bind_of_ok hdrain']
    obtain ⟨-, hw⟩ := hsame.of_ok hrun
    have hstream : w.spec.stream = spec.stream := congrArg WorkerSpec.stream hw.spec
    refine hafter.commit hblind ?_ ?_
    · rw [hstream]
      exact List.mem_map_of_mem hspec
    · rw [hstream]
      exact hw.start

/-- If it fails, its scan is closed in the part of the world that the passes have in common. -/
theorem Alike.runGuarded :
    (p.kept.runGuarded source.kept (Kept.store answer) spec allowance st').1 =
        (p.kept.runGuarded source.kept (Kept.store answer) spec allowance st).1 ∧
      Alike p.streams (p.kept.runGuarded source.kept (Kept.store answer) spec allowance st).2
        (p.kept.runGuarded source.kept (Kept.store answer) spec allowance st').2 := by
  obtain ⟨houtcome, halike⟩ := h.runWorker source allowance hblind hspec
  rcases hrun : p.kept.runWorker source.kept (Kept.store answer) spec allowance st
    with ⟨outcome, after⟩
  rcases hrun' : p.kept.runWorker source.kept (Kept.store answer) spec allowance st'
    with ⟨outcome', after'⟩
  rw [hrun, hrun'] at houtcome halike
  obtain rfl : outcome' = outcome := houtcome
  simp only [Pipeline.runGuarded, hrun, hrun']
  cases outcome' with
  | ok _ => exact ⟨rfl, halike⟩
  | unfinished => exact ⟨rfl, halike⟩
  | error e =>
    have hclose : (source.kept.ask .closeScan after'.book.world).2.world =
        (source.kept.ask .closeScan after.book.world).2.world :=
      congrArg (fun world => (source.ask .closeScan world).2) halike.world
    exact ⟨rfl, hclose, halike.report, halike.position⟩

end

/-- Workers run alike, up to the first that fails. -/
theorem Alike.runAll (source : Source ω) (allowance : Nat)
    (hblind : Kept.Blind p.streams answer) {specs : List WorkerSpec}
    (hspecs : ∀ spec ∈ specs, spec ∈ p.workers) (h : Alike p.streams st st') :
    (p.kept.runAll source.kept (Kept.store answer) allowance specs st').1 =
        (p.kept.runAll source.kept (Kept.store answer) allowance specs st).1 ∧
      Alike p.streams (p.kept.runAll source.kept (Kept.store answer) allowance specs st).2
        (p.kept.runAll source.kept (Kept.store answer) allowance specs st').2 := by
  induction specs generalizing st st' with
  | nil => exact ⟨rfl, h⟩
  | cons spec rest ih =>
    obtain ⟨houtcome, halike⟩ := h.runGuarded source allowance hblind
      (hspecs spec List.mem_cons_self)
    rcases hrun : p.kept.runGuarded source.kept (Kept.store answer) spec allowance st
      with ⟨outcome, after⟩
    rcases hrun' : p.kept.runGuarded source.kept (Kept.store answer) spec allowance st'
      with ⟨outcome', after'⟩
    rw [hrun, hrun'] at houtcome halike
    obtain rfl : outcome' = outcome := houtcome
    rw [Pipeline.runAll]
    cases outcome' with
    | ok _ =>
      rw [Call.bind_of_ok hrun, Call.bind_of_ok hrun']
      exact ih (fun s hs => hspecs s (List.mem_cons_of_mem _ hs)) halike
    | error e =>
      rw [Call.bind_of_error hrun, Call.bind_of_error hrun']
      exact ⟨rfl, halike⟩
    | unfinished =>
      rw [Call.bind_of_unfinished hrun, Call.bind_of_unfinished hrun']
      exact ⟨rfl, halike⟩

/-- A worker moves no stream but its own, and the store holds what the book holds. -/
theorem ends_runGuarded_movesOnly (hst : st.book.IsKept) :
    (p.kept.runGuarded source.kept (Kept.store answer) spec allowance).Ends
      (fun _ st' => st.book.MovesOnly [spec.stream] st'.book)
      (fun _ st' => st.book.MovesOnly [spec.stream] st'.book) st := by
  have hstays {st' : PassState (Kept ω)} (hcursors : st'.book.cursors = st.book.cursors)
      (hheld : st'.book.world.held = st.book.world.held) :
      st.book.MovesOnly [spec.stream] st'.book := by
    refine ⟨fun s => ?_, fun s _ => congrArg (CursorMap.position · s) hcursors⟩
    rw [hheld, Book.position, hcursors]
    exact hst s
  have hdrain : (p.kept.drain source.kept spec allowance).Ends
      (fun _ st' => st'.book.cursors = st.book.cursors ∧
        st'.book.world.held = st.book.world.held)
      (fun _ st' => st'.book.cursors = st.book.cursors ∧
        st'.book.world.held = st.book.world.held) st := by
    refine Call.ends_of_left ?_
    rw [drain_kept]
    exact ⟨rfl, rfl⟩
  rw [ends_runGuarded, ends_runWorker]
  refine hdrain.mono (fun w st' h => ?_) fun e st' h => ?_
  · obtain ⟨hcursors, hheld⟩ := h
    split
    · simp only [Kept.store]
      rcases answer (st.book.cursors.insert spec.stream (some w.cursor)) st'.book.world.world
        with ⟨e | _, world⟩
      · exact hstays rfl hheld
      · refine ⟨fun _ => rfl, fun s hs => ?_⟩
        have hother : s ≠ spec.stream := fun heq => hs (List.mem_singleton.2 heq)
        rw [Book.position, CursorMap.position_insert, if_neg hother]
        rfl
    · exact hstays hcursors hheld
  · split
    · exact hstays h.1 h.2
    · exact hstays h.1 h.2

/-- Workers move no streams but their own. -/
theorem ends_runAll_movesOnly {specs : List WorkerSpec} (hspecs : ∀ spec ∈ specs, spec ∈ p.workers)
    (hst : st.book.IsKept) :
    (p.kept.runAll source.kept (Kept.store answer) allowance specs).Ends
      (fun _ st' => st.book.MovesOnly p.streams st'.book)
      (fun _ st' => st.book.MovesOnly p.streams st'.book) st := by
  induction specs generalizing st with
  | nil => exact Call.ends_pure.2 (.refl _ hst)
  | cons spec rest ih =>
    have hspec : spec.stream ∈ p.streams := List.mem_map_of_mem (hspecs spec List.mem_cons_self)
    have howned {st' : PassState (Kept ω)} (h : st.book.MovesOnly [spec.stream] st'.book) :
        st.book.MovesOnly p.streams st'.book := by
      refine ⟨h.kept, fun s hs => h.others s fun hmem => hs ?_⟩
      rwa [List.mem_singleton.1 hmem]
    rw [runAll, Call.ends_bind]
    refine (ends_runGuarded_movesOnly hst).mono (fun _ st₁ h => ?_) fun _ _ h => howned h
    exact (ih (fun s hs => hspecs s (List.mem_cons_of_mem _ hs)) h.kept).mono
      (fun _ _ h' => (howned h).trans h') fun _ _ h' => (howned h).trans h'

/-- A pass moves no stream of another pipeline, in the book or in the store. -/
theorem execute_movesOnly (p : Pipeline ω ρ) (source : Source ω)
    (answer : CursorMap → ω → Except StateError Unit × ω) (allowance : Nat) {b : Book (Kept ω)}
    (hb : b.IsKept) :
    b.MovesOnly p.streams
      (p.kept.execute source.kept (Kept.store answer) allowance b).2 := by
  have hends : (p.kept.execute source.kept (Kept.store answer) allowance).Ends
      (fun _ b' => b.MovesOnly p.streams b') (fun _ b' => b.MovesOnly p.streams b') b := by
    let start : PassState (Kept ω) := ⟨b, .zero⟩
    have hstart : start.book.IsKept := hb
    rw [ends_execute]
    exact ends_runAll_movesOnly (fun _ => id) hstart
  exact hends.left

/-- From books that agree on the streams of a pipeline its pass goes alike: it comes to the same
result, leaves the rest of the world the same, and these streams at the same cursors. -/
theorem execute_alike (source : Source ω) (allowance : Nat) (hblind : Kept.Blind p.streams answer)
    {b b' : Book (Kept ω)} (hworld : b'.world.world = b.world.world)
    (hpositions : ∀ s ∈ p.streams, b'.position s = b.position s) :
    let pass := p.kept.execute source.kept (Kept.store answer) allowance
    (pass b').1 = (pass b).1 ∧ (pass b').2.world.world = (pass b).2.world.world ∧
      ∀ s ∈ p.streams, (pass b').2.position s = (pass b).2.position s := by
  intro pass
  have hstart : Alike p.streams ⟨b, .zero⟩ ⟨b', .zero⟩ := ⟨hworld, rfl, hpositions⟩
  obtain ⟨houtcome, halike⟩ := hstart.runAll source allowance hblind fun _ => id
  refine ⟨?_, halike.world, halike.position⟩
  have hexecute (c : Book (Kept ω)) : (pass c).1 =
      (p.kept.runAll source.kept (Kept.store answer) allowance p.workers ⟨c, .zero⟩).1.map fun _ =>
        (p.kept.runAll source.kept (Kept.store answer) allowance p.workers ⟨c, .zero⟩).2.report :=
    rfl
  rw [hexecute, hexecute, houtcome]
  exact congrArg (fun report => Outcome.map (fun _ => report) _) halike.report

end Pipeline

/-- The event is a question or a batch. -/
def PassEvent.isCall : PassEvent → Bool
  | asked .. => true
  | wrote .. => true
  | committed .. => false

/-- The questions and the batches of a part of a pass, in order and with their answers. -/
def calls (events : List PassEvent) : List PassEvent := events.filter PassEvent.isCall

/-- The record without the commits, as a part of the world that is not the store. -/
def Logged.aside (t : Logged (Kept ω)) : Kept (Logged ω) :=
  ⟨⟨t.world.world, calls t.events⟩, t.world.held⟩

/-- Commits are answered as they are without a record. -/
def Logged.answer (answer : CursorMap → ω → Except StateError Unit × ω) (m : CursorMap)
    (t : Logged ω) : Except StateError Unit × Logged ω :=
  ((answer m t.world).1, { t with world := (answer m t.world).2 })

namespace Pipeline

variable (p : Pipeline ω ρ) (source : Source ω)
  (answer : CursorMap → ω → Except StateError Unit × ω) (allowance : Nat)

/-- The record of a pass, but for its commits, may be kept beside the store as well. -/
theorem execute_aside (b : Book (Logged (Kept ω))) :
    p.logged.kept.execute source.logged.kept (Kept.store (Logged.answer answer)) allowance
        (b.onPart Logged.aside) =
      ((p.kept.logged.execute source.kept.logged (Kept.store answer).logged allowance b).1,
        (p.kept.logged.execute source.kept.logged (Kept.store answer).logged allowance b).2.onPart
          Logged.aside) := by
  have happend (events : List PassEvent) (event : PassEvent) :
      calls (events ++ [event]) = calls events ++ calls [event] := List.filter_append ..
  have hsource : source.kept.logged.Mirrors Logged.aside source.logged.kept := by
    intro c t
    simp only [Logged.aside, Source.logged, Logged.call, happend]
    rfl
  have hloader : p.kept.logged.loader.Mirrors Logged.aside p.logged.kept.loader := by
    refine ⟨rfl, fun batch t => ?_⟩
    simp only [Logged.aside, Pipeline.logged, withLoader, Loader.logged, Logged.call, happend]
    rfl
  have hstore : (Kept.store answer).logged.Mirrors Logged.aside
      (Kept.store (Logged.answer answer)) := by
    intro m t
    simp only [Logged.aside, Store.logged, Kept.store, Logged.answer, happend]
    rcases answer m t.world.world with ⟨_ | _, _⟩ <;>
      simp [calls, PassEvent.isCall]
  exact mirrors_execute hsource hloader hstore allowance b

/-- A pass of the pipeline in a world with a store, and with a record of what it did. -/
def Goes (b : Book (Kept ω)) (outcome : Outcome PipelineError PassReport) (after : Book (Kept ω))
    (events : List PassEvent) : Prop :=
  p.kept.execute source.kept (Kept.store answer) allowance b = (outcome, after) ∧
    p.kept.logged.execute source.kept.logged (Kept.store answer).logged allowance
      ⟨b.cursors, ⟨b.world, []⟩⟩ = (outcome, ⟨after.cursors, ⟨after.world, events⟩⟩)

/-- Every pass goes in some way. -/
theorem exists_goes (b : Book (Kept ω)) :
    ∃ outcome after events, p.Goes source answer allowance b outcome after events := by
  have hplain := p.kept.logged_execute source.kept (Kept.store answer) allowance
    ⟨b.cursors, ⟨b.world, []⟩⟩
  exact ⟨_, _, _, hplain, rfl⟩

variable {p source answer allowance}

/-- From two books that agree on the streams of a pipeline, each of which its store holds, the pass
asks the same questions and writes the same batches, comes to the same result and leaves the streams
at the same cursors, and every other stream stays where it stood. -/
theorem goes_alike (hblind : Kept.Blind p.streams answer) {b b' after after' : Book (Kept ω)}
    {outcome outcome' : Outcome PipelineError PassReport} {events events' : List PassEvent}
    (hb : b.IsKept) (hb' : b'.IsKept) (hworld : b'.world.world = b.world.world)
    (hpositions : ∀ s ∈ p.streams, b'.position s = b.position s)
    (h : p.Goes source answer allowance b outcome after events)
    (h' : p.Goes source answer allowance b' outcome' after' events') :
    outcome' = outcome ∧ calls events' = calls events ∧
      after'.world.world = after.world.world ∧
      (∀ s ∈ p.streams, after'.position s = after.position s) ∧
      b.MovesOnly p.streams after ∧ b'.MovesOnly p.streams after' := by
  have hmoves := p.execute_movesOnly source answer allowance hb
  have hmoves' := p.execute_movesOnly source answer allowance hb'
  rw [h.1] at hmoves
  rw [h'.1] at hmoves'
  have haside := p.execute_aside source answer allowance ⟨b.cursors, ⟨b.world, []⟩⟩
  have haside' := p.execute_aside source answer allowance ⟨b'.cursors, ⟨b'.world, []⟩⟩
  rw [h.2] at haside
  rw [h'.2] at haside'
  have hblind' : Kept.Blind p.logged.streams (Logged.answer answer) := by
    intro m m' hm
    funext t
    rw [Logged.answer, Logged.answer, hblind m m' hm]
  let recorded (c : Book (Kept ω)) : Book (Kept (Logged ω)) :=
    Book.onPart Logged.aside ⟨c.cursors, ⟨c.world, []⟩⟩
  have hworld' : (recorded b').world.world = (recorded b).world.world := by
    simp only [recorded, Book.onPart, Logged.aside, hworld]
  have halike := execute_alike source.logged allowance hblind' hworld' hpositions
  simp only [recorded, haside, haside'] at halike
  obtain ⟨houtcome, hlogged, hafter⟩ := halike
  have hlogged : (⟨after'.world.world, calls events'⟩ : Logged ω) =
      ⟨after.world.world, calls events⟩ := hlogged
  injection hlogged with houtside hcalls
  exact ⟨houtcome, hcalls, houtside, hafter, hmoves, hmoves'⟩

end Pipeline

end CatalogSync
