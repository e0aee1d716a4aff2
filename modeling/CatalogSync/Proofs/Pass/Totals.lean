import CatalogSync.Proofs.Load.Buffer
import CatalogSync.Proofs.Load.Replay
import CatalogSync.Proofs.Pass.Commit
import CatalogSync.Proofs.Pass.Gating

/-!
# What a report adds up to

The numbers of a report are raised one by one while a pass goes on, each at a place of its own. For
a loader that reports of every batch that all of it was sent, they come to what the record of the
pass holds: at every moment of an answered pass the report is `PassReport.ofEvents` of what was done
so far. The batches of a worker come out of a buffer of its own, which is empty when its cursor is
committed, so there are as many of them as the records of that worker need.
-/

namespace CatalogSync

/-- Whenever the loader says what became of a batch, it says that all of the batch was sent. -/
def Loader.ReportsSent {ω : Type} (loader : Loader ω) : Prop :=
  ∀ batch w, (loader.write batch).Ends (fun result _ => result.sent = batch.length)
    (fun _ _ => True) w

/-- An index that is written in bulk does so, whatever the server answers. -/
theorem BulkIndex.reportsSent_loader {φ ω : Type} [Growth φ] (i : BulkIndex φ)
    (client : Http.Client ω) (allowance : Nat) : (i.loader client allowance).ReportsSent := by
  rintro (_ | ⟨entry, rest⟩) w
  · exact Call.ends_pure.2 rfl
  · refine (Policy.ends_retry (I := fun _ => True) (F := fun _ _ => True) (fun w _ => ?_)
      (fun _ _ _ => trivial) trivial).mono (fun _ _ => id) fun _ _ _ => trivial
    simp only [post, Call.ends_bind, send, Call.ends_mapError, Call.ends_ofExcept]
    refine Call.ends_true.mono (fun response _ _ => ?_) fun _ _ _ => ⟨trivial, fun _ _ _ => trivial⟩
    obtain ⟨reply, -, -, hjudge⟩ | ⟨detail, -, hjudge⟩ | hjudge :=
      BulkIndex.judge_cases (entry :: rest).length response <;> simp only [hjudge]
    · exact ⟨trivial, fun _ _ _ => trivial⟩
    · exact ⟨trivial, fun _ _ _ => trivial⟩

instance : DecidablePred PassEvent.IsCommitted
  | .asked .. => isFalse id
  | .wrote .. => isFalse id
  | .committed .. => isTrue trivial

namespace PassReport

variable {ρ : Type} (decode : Decoder ρ)

/-- The report that counts these events. -/
def ofEvents (events : List PassEvent) : PassReport where
  extracted := (yielded decode events).length
  loaded := (CatalogSync.batches events).flatten.length
  batches := (CatalogSync.batches events).length
  streamsCommitted := events.countP PassEvent.IsCommitted

theorem ofEvents_append (events later : List PassEvent) :
    ofEvents decode (events ++ later) = ofEvents decode events + ofEvents decode later := by
  simp only [ofEvents, yielded_append, batches_append, List.flatten_append, List.length_append,
    List.countP_append, add_eq]

/-- What only asks adds the records that it is answered with. -/
theorem ofEvents_of_asked {events : List PassEvent} (h : ∀ event ∈ events, event.IsAsked) :
    ofEvents decode events = ⟨(yielded decode events).length, 0, 0, 0⟩ := by
  obtain ⟨huncommitted, hbatches⟩ := Pipeline.of_asked h
  have hcommits : events.countP PassEvent.IsCommitted = 0 :=
    List.countP_eq_zero.2 fun event he => by simpa using huncommitted event he
  simp only [ofEvents, hbatches, hcommits, List.flatten_nil, List.length_nil]

/-- A batch that was written adds its entries. -/
theorem ofEvents_wrote (batch : Batch) (answer : Outcome LoadError LoadResult) :
    ofEvents decode [.wrote batch answer] = ⟨0, batch.length, 1, 0⟩ := by
  change (⟨0, [batch].flatten.length, 1, 0⟩ : PassReport) = _
  rw [List.flatten_singleton]

theorem ofEvents_committed (cursors : CursorMap) (answer : Except StateError Unit) :
    ofEvents decode [.committed cursors answer] = ⟨0, 0, 0, 1⟩ := rfl

end PassReport

namespace Pipeline

variable {ω ρ : Type} (p : Pipeline ω ρ)

/-- Since the worker started this was done, and both the report and the worker count it. -/
structure Counts (before part : List PassEvent) (start : PassReport) (s : Progress (Logged ω)) :
    Prop where
  events : s.world.events = before ++ part
  report : s.report = start + .ofEvents p.decode part
  emitted : s.extraction.worker.emitted = (yielded p.decode part).length

/-- Besides, every batch so far was full, and the buffer has room. -/
structure Fills (before part : List PassEvent) (start : PassReport) (s : Progress (Logged ω)) : Prop
    extends p.Counts before part start s where
  limit : s.buffer.limit = max p.loader.batchSize 1
  room : s.buffer.HasRoom
  full : ∀ batch ∈ batches part, batch.length = max p.loader.batchSize 1

variable {p} {source : Source ω} {store : Store ω} {allowance : Nat} {stream : String}
  {before part : List PassEvent} {start : PassReport} {s : Progress (Logged ω)}

/-- A batch that is accepted in full is counted once, and so are its entries. -/
theorem Counts.load (hsent : p.loader.ReportsSent) (h : p.Counts before part start s)
    (batch : Batch) :
    (p.logged.load stream batch).Ends
      (fun _ s' => s'.buffer = s.buffer ∧
        ∃ answer, p.Counts before (part ++ [.wrote batch answer]) start s')
      (fun _ _ => True) s := by
  simp only [Pipeline.load, Call.ends_bind, Progress.ends_outside, Progress.ends_count]
  refine Logged.ends_call_iff.2 ((hsent batch s.world.world).mono (fun result world hlength => ?_)
    fun _ _ _ => trivial)
  split
  · next hverified =>
    have haccepted : result.accepted = batch.length := hverified.symm.trans hlength
    refine Progress.ends_count.2 ⟨rfl, .ok result, ?_, ?_, ?_⟩
    · change s.world.events ++ _ = _
      rw [h.events, List.append_assoc]
    · rw [PassReport.ofEvents_append, PassReport.ofEvents_wrote, ← PassReport.add_assoc, ← h.report,
        ← haccepted]
      rfl
    · rw [yielded_append]
      exact h.emitted.trans (congrArg List.length (List.append_nil _).symm)
  · exact Call.ends_fail.2 trivial

theorem Counts.loadSome (hsent : p.loader.ReportsSent) (h : p.Counts before part start s)
    (batch : Option Batch) :
    (p.logged.loadSome stream batch).Ends
      (fun _ s' => s'.buffer = s.buffer ∧ ∃ part', p.Counts before part' start s' ∧
        batches part' = batches part ++ batch.toList)
      (fun _ _ => True) s := by
  cases batch with
  | none => exact Call.ends_pure.2 ⟨rfl, part, h, (List.append_nil _).symm⟩
  | some batch =>
    refine (h.load hsent batch).imp fun _ s' hs' => ?_
    obtain ⟨hbuffer, answer, hcounts⟩ := hs'
    exact ⟨hbuffer, _, hcounts, batches_append ..⟩

/-- A record takes its place in the buffer, and what is taken out for it is a full batch. -/
theorem Fills.take (hsent : p.loader.ReportsSent) (h : p.Fills before part start s) (record : ρ) :
    (p.logged.take stream record).Ends (fun _ s' => ∃ part', p.Fills before part' start s')
      (fun _ _ => True) s := by
  unfold Pipeline.take
  cases p.logged.transform record with
  | error e => exact Call.ends_fail.2 trivial
  | ok document =>
    rw [Call.ends_bind, ends_push]
    rcases hpush : s.buffer.push document with ⟨e | batch, buffer⟩
    · trivial
    · obtain ⟨hlimit, hroom, hfull⟩ := h.room.push hpush
      have hcounts : p.Counts before part start { s with buffer } := ⟨h.events, h.report, h.emitted⟩
      refine (hcounts.loadSome hsent batch).imp fun _ s' hs' => ?_
      obtain ⟨hbuffer, part', hcounts', hbatches⟩ := hs'
      refine ⟨part', hcounts', ?_, ?_, ?_⟩
      · rw [hbuffer]
        exact hlimit.trans h.limit
      · rw [hbuffer]
        exact hroom
      · rw [hbatches]
        refine List.forall_mem_append.2 ⟨h.full, fun full hmem => ?_⟩
        rw [hfull full (Option.mem_toList.1 hmem), h.limit]

theorem Fills.takeAll (hsent : p.loader.ReportsSent) (records : List ρ)
    (h : p.Fills before part start s) :
    (p.logged.takeAll stream records).Ends (fun _ s' => ∃ part', p.Fills before part' start s')
      (fun _ _ => True) s := by
  induction records generalizing part s with
  | nil => exact Call.ends_pure.2 ⟨part, h⟩
  | cons record rest ih =>
    refine Call.ends_bind.2 ((h.take hsent record).imp fun _ s' hs' => ?_)
    obtain ⟨part', h'⟩ := hs'
    exact ih h'

/-- The records of a page are counted before any of them is handled. The turn that answers has
emptied the buffer. -/
theorem Fills.turn (hsent : p.loader.ReportsSent) (h : p.Fills before part start s) :
    (p.logged.turn source.logged stream allowance).Ends
      (fun last s' => match last with
        | none => ∃ part', p.Fills before part' start s'
        | some _ => ∃ part', p.Counts before part' start s' ∧
            Batch.AreFilled (max p.loader.batchSize 1) (batches part'))
      (fun _ _ => True) s := by
  simp only [Pipeline.turn, Pipeline.page, Call.ends_bind, Call.ends_within, Call.ends_mapError]
  have hyields := ((Extraction.Yields.refl p.decode s.extraction).then_nextPage
    allowance).and (Extraction.ends_nextPage_emitted source.logged p.decode allowance s.extraction)
  refine hyields.mono (fun page x hx => ?_) fun _ _ _ => trivial
  obtain ⟨⟨-, more, hevents, hasked, -, hyield⟩, hemitted⟩ := hx
  have hlogged : x.world.events = before ++ (part ++ more) := by
    rw [hevents, ← List.append_assoc]
    exact congrArg (· ++ more) h.events
  have hmore := PassReport.ofEvents_of_asked p.decode hasked
  have hcount : x.worker.emitted = (yielded p.decode (part ++ more)).length := by
    rw [hemitted, h.emitted, yielded_append, List.length_append, hyield]
  have hbatches : batches (part ++ more) = batches part := by
    rw [batches_append, (of_asked hasked).2, List.append_nil]
  have hreport : start + .ofEvents p.decode (part ++ more) =
      { s.report with extracted := s.report.extracted + page.toList.length } := by
    rw [PassReport.ofEvents_append, ← PassReport.add_assoc, ← h.report, hmore, hyield]
    rfl
  cases page with
  | records records =>
    simp only [Call.ends_bind, Progress.ends_count, Call.ends_pure]
    refine Fills.takeAll hsent records ⟨⟨hlogged, hreport.symm, hcount⟩, h.limit, h.room, ?_⟩
    rw [hbatches]
    exact h.full
  | done reason =>
    simp only [Call.ends_bind, ends_flush, Call.ends_pure]
    have hcounts : p.Counts before (part ++ more) start
        { s with extraction := x, buffer := s.buffer.flush.2 } := ⟨hlogged, hreport.symm, hcount⟩
    refine (hcounts.loadSome hsent s.buffer.flush.1).imp fun _ s' hs' => ?_
    obtain ⟨-, part', hcounts', hpart'⟩ := hs'
    refine ⟨part', hcounts', ?_⟩
    rw [hpart', hbatches]
    refine .of_full h.full ?_
    cases hflush : s.buffer.flush.1 with
    | none => exact .none
    | some batch =>
      obtain ⟨rfl, hne⟩ := BatchBuffer.mem_flush.1 hflush
      refine .last hne ?_
      rw [← h.limit]
      exact h.room

/-- A worker that is drained has been counted, and its batches are filled. -/
theorem ends_drain_counted (hsent : p.loader.ReportsSent) (source : Source ω) (spec : WorkerSpec)
    (allowance : Nat) (st : PassState (Logged ω)) :
    (p.logged.drain source.logged spec allowance).Ends
      (fun w st' => ∃ part, st'.book.world.events = st.book.world.events ++ part ∧
        st'.report = st.report + .ofEvents p.decode part ∧
        w.emitted = (yielded p.decode part).length ∧
        Batch.AreFilled (max p.loader.batchSize 1) (batches part))
      (fun _ _ => True) st := by
  rw [ends_drain]
  have hstart : p.Fills st.book.world.events [] st.report (p.logged.atStart spec st) :=
    ⟨⟨(List.append_nil _).symm, rfl, rfl⟩, rfl, BatchBuffer.hasRoom_ofLimit _, by simp⟩
  refine Call.ends_untilSome
    (I := fun s => ∃ part, p.Fills st.book.world.events part st.report s) (fun s hs => ?_)
    (fun _ _ => trivial) allowance ⟨[], hstart⟩
  obtain ⟨part, h⟩ := hs
  refine (h.turn hsent).imp fun last s' hs' => ?_
  cases last with
  | none => exact hs'
  | some _ =>
    obtain ⟨part', hcounts, hfilled⟩ := hs'
    exact ⟨part', hcounts.events, hcounts.report, hcounts.emitted, hfilled⟩

end Pipeline

end CatalogSync
