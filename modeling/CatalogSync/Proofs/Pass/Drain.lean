import CatalogSync.Proofs.Pass.Yield

/-!
# What a worker loads

Between two records of a worker, every record it has handled lies in exactly one place and in
order: in a batch that was accepted in full, or in the buffer. A worker that comes to its end
therefore has loaded everything that it yielded, and one that halts before does so at the first
answer or record that it cannot go on with, or for want of steps.
-/

namespace CatalogSync.Pipeline

variable {ω ρ : Type} (p : Pipeline ω ρ)

/-- The entries of some records in order, or why the first that has none has none. -/
def entriesOf (records : List ρ) : Except PipelineError (List Entry) := records.mapM p.entryOf

/-- In this part of a pass everything that was yielded was placed, in order, in exactly one batch,
and everything succeeded: every batch was accepted in full. -/
structure Loaded (part : List PassEvent) : Prop where
  uncommitted : Uncommitted part
  entries : p.entriesOf (yielded p.decode part) = .ok (batches part).flatten
  succeeded : Succeeded p.decode part

/-- Everything in this part of a pass succeeded. Of the records that were yielded those in hand are
not handled yet; the others have entries, which are in the batches and, behind them, placed. -/
structure Reached (part : List PassEvent) (hand : List ρ) (placed : List Entry) : Prop where
  uncommitted : Uncommitted part
  succeeded : Succeeded p.decode part
  placed : ∃ handled, yielded p.decode part = handled ++ hand ∧
    p.entriesOf handled = .ok ((batches part).flatten ++ placed)

/-- What may come next when a worker has some records in hand and some entries placed: with nothing
in hand the source is asked; the records of a last page are in hand while its scan is closed; and
the first of the entries are written. -/
inductive IsNext (decode : Decoder ρ) :
    List PassEvent → List ρ → List Entry → PassEvent → Prop where
  | ask {part : List PassEvent} {placed : List Entry} {event : PassEvent}
      (hasked : event.IsAsked) : IsNext decode part [] placed event
  | close {part : List PassEvent} {aggregate : Aggregate} {ids : List String} {docs : List Json}
      {hand : List ρ} {placed : List Entry} (hdocs : List.mapM decode docs = .ok hand)
      (answer : Outcome SourceError Unit) :
    IsNext decode (part ++ [.asked (.enrich aggregate ids) (.ok docs)]) hand placed
      (.asked .closeScan answer)
  | write {part : List PassEvent} {hand : List ρ} {placed : List Entry} (batch : Batch)
      (answer : Outcome LoadError LoadResult) :
    IsNext decode part hand (batch ++ placed) (.wrote batch answer)

/-- What a worker over the stream fails with at an answer, if it does. -/
def errorOf? (stream : String) : PassEvent → Option PipelineError
  | .wrote _ (.error e) => some (.load e)
  | .wrote _ (.ok result) =>
    if result.IsVerified then none
    else some (.verification p.name stream result.sent result.accepted)
  | .committed _ (.error e) => some (.state e)
  | event => (event.sourceError? p.decode stream).map .source

/-- How a worker over the stream halts before it has come to its end, under an error or without
one. -/
inductive Halts (stream : String) : List PassEvent → Option PipelineError → Prop where
  /-- What came next did not succeed. -/
  | event {part : List PassEvent} {hand : List ρ} {placed : List Entry} {event : PassEvent}
      (hpart : p.Reached part hand placed) (hnext : IsNext p.decode part hand placed event)
      (hevent : ¬event.Succeeds p.decode) :
    Halts stream (part ++ [event]) (p.errorOf? stream event)
  /-- The next record has no entry. -/
  | record {part : List PassEvent} {record : ρ} {hand : List ρ} {placed : List Entry}
      {e : PipelineError} (hpart : p.Reached part (record :: hand) placed)
      (he : p.entryOf record = .error e) : Halts stream part (some e)
  /-- The steps ran out when everything that was yielded had been placed. -/
  | spent {part : List PassEvent} {placed : List Entry} (hpart : p.Reached part [] placed) :
    Halts stream part none

theorem entriesOf_append (records more : List ρ) :
    p.entriesOf (records ++ more) = do
      return (← p.entriesOf records) ++ (← p.entriesOf more) := List.mapM_append

/-- One more record adds its entry. -/
theorem entriesOf_append_singleton {records : List ρ} {record : ρ} {entries : List Entry}
    {entry : Entry} (h : p.entriesOf records = .ok entries)
    (hentry : p.entryOf record = .ok entry) :
    p.entriesOf (records ++ [record]) = .ok (entries ++ [entry]) := by
  have hone : p.entriesOf [record] = .ok [entry] := by
    simp only [entriesOf, List.mapM_cons, hentry]
    rfl
  rw [entriesOf_append, h, hone]
  rfl

/-- A worker over its stream that has reached a place in this part of a pass. -/
structure Underway (spec : WorkerSpec) (start : Cursor) (before part : List PassEvent)
    (hand : List ρ) (placed : List Entry) (x : Extraction (Logged ω)) : Prop
    extends p.Reached part hand placed where
  spec_eq : x.worker.spec = spec
  start_eq : x.worker.start = start
  events : x.world.events = before ++ part

/-- The worker halted behind a part of the pass. -/
def Stopped (stream : String) (before : List PassEvent) (e : Option PipelineError)
    (x : Extraction (Logged ω)) : Prop :=
  ∃ part, x.world.events = before ++ part ∧ p.Halts stream part e

variable {p} {spec : WorkerSpec} {start : Cursor} {before part : List PassEvent} {hand : List ρ}
  {placed batch : List Entry} {x x' : Extraction (Logged ω)}

/-- What only asks neither commits nor writes. -/
theorem of_asked {events : List PassEvent} (h : ∀ event ∈ events, event.IsAsked) :
    Uncommitted events ∧ batches events = [] := by
  refine ⟨fun event he => ?_, List.filterMap_eq_nil_iff.2 fun event he => ?_⟩
  all_goals
    have hasked := h event he
    cases event <;> simp_all [PassEvent.IsAsked, PassEvent.IsCommitted, PassEvent.batch?]

/-- What is only asked brings its records into hand. -/
theorem Reached.asked (h : p.Reached part [] placed) {more : List PassEvent}
    (hasked : ∀ event ∈ more, event.IsAsked) (hsucceeded : Succeeded p.decode more) :
    p.Reached (part ++ more) (yielded p.decode more) placed := by
  obtain ⟨huncommitted, hbatches⟩ := of_asked hasked
  obtain ⟨handled, hhandled, hentries⟩ := h.placed
  refine ⟨?_, ?_, handled, ?_, ?_⟩
  · exact (uncommitted_append _ _).2 ⟨h.uncommitted, huncommitted⟩
  · exact (succeeded_append ..).2 ⟨h.succeeded, hsucceeded⟩
  · rw [yielded_append, hhandled, List.append_nil]
  · rw [batches_append, hbatches, List.append_nil, hentries]

/-- A record that has an entry is placed behind the others. -/
theorem Reached.place {record : ρ} {entry : Entry} (h : p.Reached part (record :: hand) placed)
    (hentry : p.entryOf record = .ok entry) : p.Reached part hand (placed ++ [entry]) := by
  obtain ⟨handled, hhandled, hentries⟩ := h.placed
  refine ⟨h.uncommitted, h.succeeded, handled ++ [record], ?_, ?_⟩
  · rw [hhandled, List.append_assoc]
    rfl
  · rw [p.entriesOf_append_singleton hentries hentry, List.append_assoc]

/-- The entries of a batch that was accepted in full are out of the worker's hands. -/
theorem Reached.written (h : p.Reached part hand (batch ++ placed)) {result : LoadResult}
    (hverified : result.IsVerified) :
    p.Reached (part ++ [.wrote batch (.ok result)]) hand placed := by
  obtain ⟨handled, hhandled, hentries⟩ := h.placed
  refine ⟨?_, ?_, handled, ?_, ?_⟩
  · exact (uncommitted_append _ _).2 ⟨h.uncommitted, (uncommitted_singleton _).2 id⟩
  · exact (succeeded_append ..).2 ⟨h.succeeded, (succeeded_singleton ..).2 ⟨result, rfl, hverified⟩⟩
  · rw [yielded_append, hhandled]
    exact List.append_nil _
  · rw [hentries, batches_append, List.flatten_append, List.append_assoc]
    congr 3
    exact (List.append_nil batch).symm

/-- What does not succeed and what may come next is no commit. -/
theorem IsNext.not_isCommitted {event : PassEvent} (h : IsNext p.decode part hand placed event) :
    ¬event.IsCommitted := by
  cases h with
  | ask hasked => cases event <;> simp_all [PassEvent.IsAsked, PassEvent.IsCommitted]
  | close | write => exact id

/-- A worker that halts has committed nothing. -/
theorem Halts.uncommitted {stream : String} {e : Option PipelineError}
    (h : p.Halts stream part e) : Uncommitted part := by
  cases h with
  | event hpart hnext hevent =>
    exact (uncommitted_append _ _).2
      ⟨hpart.uncommitted, (uncommitted_singleton _).2 hnext.not_isCommitted⟩
  | record hpart he => exact hpart.uncommitted
  | spent hpart => exact hpart.uncommitted

/-- A worker that halts while it asks for a page halts for the reason that its source has. -/
theorem Halts.of_source {stream : String} {asked : List PassEvent} {e : Option SourceError}
    (hpart : p.Reached part [] placed) (hasked : ∀ event ∈ asked, event.IsAsked)
    (h : SourceHalts p.decode stream asked e) : p.Halts stream (part ++ asked) (e.map .source) := by
  have herror {event : PassEvent} (hevent : event.IsAsked) :
      (event.sourceError? p.decode stream).map .source = p.errorOf? stream event := by
    cases event with
    | asked call answer => rfl
    | _ => cases hevent
  cases h with
  | @asking quiet event hquiet hnothing hevent hfails =>
    have hreached := hpart.asked (fun e he => hasked e (List.mem_append_left _ he)) hquiet
    rw [hnothing] at hreached
    rw [herror hevent, ← List.append_assoc]
    exact .event hreached (.ask hevent) hfails
  | @closing quiet aggregate ids docs records answer hquiet hnothing hdocs hanswer =>
    have henriched : PassEvent.Succeeds p.decode (.asked (.enrich aggregate ids) (.ok docs)) :=
      ⟨records, hdocs⟩
    have hreached := hpart.asked (fun e he => hasked e (List.mem_append_left _ he))
      ((succeeded_append ..).2 ⟨hquiet, (succeeded_singleton ..).2 henriched⟩)
    rw [yielded_append, hnothing, yielded_singleton, List.nil_append] at hreached
    simp only [PassEvent.records, hdocs, ← List.append_assoc] at hreached
    have hclosing : PassEvent.IsAsked (.asked .closeScan answer) := trivial
    rw [herror hclosing, ← List.append_assoc, ← List.append_assoc]
    exact .event hreached (.close hdocs answer) hanswer
  | spent hquiet hnothing =>
    have hreached := hpart.asked hasked hquiet
    rw [hnothing] at hreached
    exact .spent hreached

/-- The records of the next page come into hand. -/
theorem Underway.of_yields (h : p.Underway spec start before part [] placed x)
    (hx : Extraction.Yields p.decode x hand x') :
    ∃ part, p.Underway spec start before part hand placed x' := by
  obtain ⟨hsame, more, hevents, hasked, hsucceeded, rfl⟩ := hx
  refine ⟨part ++ more, h.toReached.asked hasked hsucceeded, hsame.spec.trans h.spec_eq,
    hsame.start.trans h.start_eq, ?_⟩
  rw [hevents, h.events, List.append_assoc]

/-- A worker without a next page halts. -/
theorem Underway.of_faults (h : p.Underway spec start before part [] placed x)
    {e : Option SourceError} (hx : Extraction.Faults p.decode x e x') :
    p.Stopped spec.stream before (e.map .source) x' := by
  obtain ⟨more, hevents, hasked, hhalts⟩ := hx
  rw [h.spec_eq] at hhalts
  refine ⟨part ++ more, ?_, .of_source h.toReached hasked hhalts⟩
  rw [hevents, h.events, List.append_assoc]

/-- A batch that is not accepted in full halts the worker. -/
theorem Underway.stopped_written (h : p.Underway spec start before part hand (batch ++ placed) x)
    (world : ω) {answer : Outcome LoadError LoadResult} {e : Option PipelineError}
    (hevent : ¬(PassEvent.wrote batch answer).Succeeds p.decode)
    (he : p.errorOf? spec.stream (.wrote batch answer) = e) :
    p.Stopped spec.stream before e
      { x with world := ⟨world, x.world.events ++ [.wrote batch answer]⟩ } := by
  refine ⟨part ++ [.wrote batch answer], ?_, ?_⟩
  · rw [h.events, List.append_assoc]
  · rw [← he]
    exact .event h.toReached (.write batch answer) hevent

/-- One that is accepted in full does not. -/
theorem Underway.written (h : p.Underway spec start before part hand (batch ++ placed) x)
    (world : ω) {result : LoadResult} (hverified : result.IsVerified) :
    p.Underway spec start before (part ++ [.wrote batch (.ok result)]) hand placed
      { x with world := ⟨world, x.world.events ++ [.wrote batch (.ok result)]⟩ } := by
  refine ⟨h.toReached.written hverified, h.spec_eq, h.start_eq, ?_⟩
  rw [h.events, List.append_assoc]

variable (p) in
/-- The record of a worker is kept while the worker is drained. -/
theorem drainRule_logged (source : Source ω) (spec : WorkerSpec) (start : Cursor)
    (before : List PassEvent) (allowance : Nat) :
    p.logged.DrainRule source.logged spec.stream allowance
      (fun hand placed x => ∃ part, p.Underway spec start before part hand placed x)
      (fun _ => True) (fun e x => p.Stopped spec.stream before e x) where
  page placed x := by
    rintro ⟨part, h⟩
    exact ((Extraction.Yields.refl p.decode x).then_nextPage allowance).mono
      (fun page x' hx => ⟨h.of_yields hx, fun _ _ => trivial⟩) fun e x' hx => h.of_faults hx
  place record hand placed entry x := by
    rintro ⟨part, h⟩ hentry
    exact ⟨part, h.toReached.place hentry, h.spec_eq, h.start_eq, h.events⟩
  refuse record hand placed e x := by
    rintro ⟨part, h⟩ he
    exact ⟨part, h.events, .record h.toReached he⟩
  write hand batch placed x := by
    rintro ⟨part, h⟩
    refine Logged.ends_call (fun result world => ?_) (fun e world => ?_) fun world => ?_
    · split
      · next hverified => exact ⟨_, h.written world hverified⟩
      · next hrejected =>
        refine h.stopped_written world ?_ (if_neg hrejected)
        rintro ⟨_, ⟨⟩, hverified⟩
        exact hrejected hverified
    · refine h.stopped_written world ?_ rfl
      rintro ⟨_, ⟨⟩, _⟩
    · refine h.stopped_written world ?_ rfl
      rintro ⟨_, ⟨⟩, _⟩
  unfinished placed x := by
    rintro ⟨part, h⟩
    exact ⟨part, h.events, .spent h.toReached⟩

/-- Everything a worker yields is loaded by the time it is done; a worker that is not done has
halted. -/
theorem ends_drain_logged (source : Source ω) (spec : WorkerSpec) (allowance : Nat)
    (st : PassState (Logged ω)) :
    (p.logged.drain source.logged spec allowance).Ends
      (fun w st' => st'.book.cursors = st.book.cursors ∧ w.spec = spec ∧
        w.start = st.book.position spec.stream ∧
        ∃ part, st'.book.world.events = st.book.world.events ++ part ∧ p.Loaded part)
      (fun e st' => st'.book.cursors = st.book.cursors ∧
        ∃ part, st'.book.world.events = st.book.world.events ++ part ∧
          p.Halts spec.stream part e) st := by
  have hstart : p.Underway spec (st.book.position spec.stream) st.book.world.events [] [] []
      ⟨p.logged.workerOf spec st.book.cursors, st.book.world⟩ :=
    ⟨⟨uncommitted_nil, succeeded_nil _, [], rfl, rfl⟩, rfl, rfl, (List.append_nil _).symm⟩
  have hrule := p.drainRule_logged source spec (st.book.position spec.stream)
    st.book.world.events allowance
  refine (hrule.ends_drain ⟨_, hstart⟩).mono ?_ ?_
  · rintro w st' ⟨hcursors, -, part, hw⟩
    obtain ⟨handled, hhandled, hentries⟩ := hw.placed
    refine ⟨hcursors, hw.spec_eq, hw.start_eq, part, hw.events, hw.uncommitted, ?_, hw.succeeded⟩
    rw [hhandled, List.append_nil, hentries, List.append_nil]
  · rintro e st' ⟨hcursors, w, part, hevents, hhalts⟩
    exact ⟨hcursors, part, hevents, hhalts⟩

end CatalogSync.Pipeline
