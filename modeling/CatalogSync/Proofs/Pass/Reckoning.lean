import CatalogSync.Daemon.Pipelines
import CatalogSync.Proofs.Catalog.Documents
import CatalogSync.Proofs.Pass.Totals
import CatalogSync.Proofs.Pass.Unchanging

/-!
# The reckoning of a pass

An answered pass falls into the shares of its workers: each has drained its worker and committed
what that moved to. A share adds up in itself, whatever the other workers did, and a report is what
all shares come to.
-/

namespace CatalogSync

/-- What one worker did in a pass: the worker as it ended, and the record of it. -/
structure Share where
  worker : Worker
  events : List PassEvent

namespace Pipeline

variable {ω ρ : Type} (p : Pipeline ω ρ)

/-- Some workers come to their ends one after the other, each with a share of what is done. -/
inductive Shares (source : Source ω) (store : Store ω) (allowance : Nat) :
    PassState (Logged ω) → List WorkerSpec → List Share → PassState (Logged ω) → Prop where
  | done (st : PassState (Logged ω)) : Shares source store allowance st [] [] st
  | next {st drained committed last : PassState (Logged ω)} {spec : WorkerSpec}
      {rest : List WorkerSpec} {worker : Worker} {part : List PassEvent} {shares : List Share}
      (hdrain : p.logged.drain source.logged spec allowance st = (.ok worker, drained))
      (hcommit : PassState.commit store.logged worker drained = (.ok (), committed))
      (hevents : committed.book.world.events = st.book.world.events ++ part)
      (hrest : Shares source store allowance committed rest shares last) :
      Shares source store allowance st (spec :: rest) (⟨worker, part⟩ :: shares) last

/-- What a worker yielded is in its batches, in order, and these are filled. Its cursor was
committed once if it moved, and not at all if it did not. -/
structure Balances (share : Share) : Prop where
  emitted : share.worker.emitted = (yielded p.decode share.events).length
  entries : p.entriesOf (yielded p.decode share.events) = .ok (batches share.events).flatten
  filled : Batch.AreFilled (max p.loader.batchSize 1) (batches share.events)
  commits : share.events.countP PassEvent.IsCommitted = if share.worker.HasAdvanced then 1 else 0

/-- The report adds up to what these workers did. -/
structure AddsUp (shares : List Share) (report : PassReport) : Prop where
  extracted : report.extracted = (yielded p.decode (shares.flatMap Share.events)).length
  /-- Each worker counts what it yields. -/
  emitted : report.extracted = (shares.map fun share => share.worker.emitted).sum
  loaded : report.loaded = report.extracted
  written : report.loaded = ((batches (shares.flatMap Share.events)).map List.length).sum
  batches : report.batches = (CatalogSync.batches (shares.flatMap Share.events)).length
  /-- No batch holds entries of two workers. -/
  apart : ∀ share ∈ shares, p.entriesOf (yielded p.decode share.events) =
    .ok (CatalogSync.batches share.events).flatten
  /-- The batches of a worker are as many as its records need. -/
  needed : report.batches = (shares.map fun share =>
    (yielded p.decode share.events).length ⌈/⌉ max p.loader.batchSize 1).sum
  commits : report.streamsCommitted =
    (shares.flatMap Share.events).countP PassEvent.IsCommitted
  advanced : report.streamsCommitted = shares.countP fun share => share.worker.HasAdvanced
  idle : report.hasUpdates = false ↔
    CatalogSync.batches (shares.flatMap Share.events) = [] ∧
      Uncommitted (shares.flatMap Share.events)

variable {p} {source : Source ω} {store : Store ω} {allowance : Nat} {spec : WorkerSpec}
  {specs : List WorkerSpec} {st drained committed last : PassState (Logged ω)} {worker : Worker}
  {share : Share} {shares : List Share}

/-- The entries of some records are as many as the records. -/
theorem length_of_entriesOf {records : List ρ} {entries : List Entry}
    (h : p.entriesOf records = .ok entries) : entries.length = records.length :=
  (forall₂_of_mapM h).length_eq.symm

/-- What is counted of a pass is the sum of what is counted of its shares. -/
theorem sum_shares (count : List PassEvent → Nat) (hnil : count [] = 0)
    (happend : ∀ events later, count (events ++ later) = count events + count later)
    (shares : List Share) :
    count (shares.flatMap Share.events) = (shares.map fun share => count share.events).sum := by
  induction shares with
  | nil => exact hnil
  | cons share rest ih => rw [List.flatMap_cons, happend, ih, List.map_cons, List.sum_cons]

/-- A worker that moved is committed once. -/
theorem commit_of_advanced (hstart : worker.start = drained.book.position worker.spec.stream)
    (hmoved : worker.HasAdvanced)
    (h : PassState.commit store.logged worker drained = (.ok (), committed)) :
    ∃ cursors, committed.book.world.events =
        drained.book.world.events ++ [.committed cursors (.ok ())] ∧
      committed.report = drained.report + ⟨0, 0, 0, 1⟩ := by
  have hends := Call.ends_eq_iff.2 h
  rw [ends_commit hstart, if_pos hmoved] at hends
  let cursors := drained.book.cursors.insert worker.spec.stream (some worker.cursor)
  rcases hstore : store.commit cursors drained.book.world.world with ⟨_ | _, world⟩ <;>
    simp only [Store.logged, cursors, hstore] at hends
  obtain ⟨-, rfl⟩ := hends
  exact ⟨cursors, rfl, rfl⟩

/-- A worker that stood leaves everything as it is. -/
theorem commit_of_not_advanced (hstood : ¬worker.HasAdvanced)
    (h : PassState.commit store.logged worker drained = (.ok (), committed)) :
    committed = drained := by
  rw [PassState.commit, if_neg hstood] at h
  exact (Prod.mk.inj h).2.symm

/-- A guarded worker that ends well is one that needed no guard. -/
theorem runWorker_of_guarded (h : p.logged.runGuarded source.logged store.logged spec allowance st =
    (.ok (), committed)) :
    p.logged.runWorker source.logged store.logged spec allowance st = (.ok (), committed) := by
  rw [← Call.ends_eq_iff] at h ⊢
  exact ends_runGuarded.1 h

/-- A worker that is drained and committed has a share that balances, and the report has grown by
what that counts. -/
theorem exists_share (hsent : p.loader.ReportsSent)
    (hdrain : p.logged.drain source.logged spec allowance st = (.ok worker, drained))
    (hcommit : PassState.commit store.logged worker drained = (.ok (), committed)) :
    ∃ part, committed.book.world.events = st.book.world.events ++ part ∧
      committed.report = st.report + .ofEvents p.decode part ∧ p.Balances ⟨worker, part⟩ := by
  obtain ⟨part, hevents, hreport, hemitted, hfilled⟩ :=
    (ends_drain_counted hsent source spec allowance st).of_ok hdrain
  obtain ⟨-, -, -, part', hevents', hloaded⟩ :=
    (ends_drain_logged source spec allowance st).of_ok hdrain
  obtain rfl : part' = part := List.append_cancel_left (hevents'.symm.trans hevents)
  have hcommits : part'.countP PassEvent.IsCommitted = 0 :=
    List.countP_eq_zero.2 fun event he => by simpa using hloaded.uncommitted event he
  obtain ⟨-, -, hstart⟩ := start_of_drained hdrain
  by_cases hmoved : worker.HasAdvanced
  · obtain ⟨cursors, hevent, hcounted⟩ := commit_of_advanced hstart hmoved hcommit
    have hyielded : yielded p.decode (part' ++ [.committed cursors (.ok ())]) =
        yielded p.decode part' := by
      rw [yielded_append]
      exact List.append_nil _
    have hbatches : batches (part' ++ [.committed cursors (.ok ())]) = batches part' := by
      rw [batches_append]
      exact List.append_nil _
    refine ⟨part' ++ [.committed cursors (.ok ())], ?_, ?_, ?_, ?_, ?_, ?_⟩
    · rw [hevent, hevents, List.append_assoc]
    · rw [hcounted, hreport, PassReport.ofEvents_append, PassReport.ofEvents_committed,
        PassReport.add_assoc]
    · rw [hyielded]
      exact hemitted
    · rw [hyielded, hbatches]
      exact hloaded.entries
    · rw [hbatches]
      exact hfilled
    · rw [List.countP_append, hcommits, if_pos hmoved]
      rfl
  · obtain rfl := commit_of_not_advanced hmoved hcommit
    refine ⟨part', hevents, hreport, hemitted, hloaded.entries, hfilled, ?_⟩
    rw [hcommits, if_neg hmoved]

/-- Workers that come to their ends do so each with a share. -/
theorem exists_shares (hsent : p.loader.ReportsSent)
    (h : p.logged.runAll source.logged store.logged allowance specs st = (.ok (), last)) :
    ∃ shares, p.Shares source store allowance st specs shares last := by
  induction specs generalizing st with
  | nil =>
    cases h
    exact ⟨[], .done _⟩
  | cons spec rest ih =>
    obtain ⟨_, committed, hrun, hrest⟩ := Call.bind_eq_ok_iff.1 h
    obtain ⟨worker, drained, hdrain, hcommit⟩ := Call.bind_eq_ok_iff.1 (runWorker_of_guarded hrun)
    obtain ⟨part, hevents, -, -⟩ := exists_share hsent hdrain hcommit
    obtain ⟨shares, hshares⟩ := ih hrest
    exact ⟨⟨worker, part⟩ :: shares, .next hdrain hcommit hevents hshares⟩

/-- The record of a pass is that of its shares, which balance, and the report counts it. -/
theorem Shares.counted (hsent : p.loader.ReportsSent)
    (h : p.Shares source store allowance st specs shares last) :
    last.book.world.events = st.book.world.events ++ shares.flatMap Share.events ∧
      last.report = st.report + .ofEvents p.decode (shares.flatMap Share.events) ∧
      ∀ share ∈ shares, p.Balances share := by
  induction h with
  | done st => exact ⟨(List.append_nil _).symm, rfl, by simp⟩
  | @next st drained committed last spec rest worker part shares hdrain hcommit hevents hrest ih =>
    obtain ⟨part', hevents', hreport, hbalances⟩ := exists_share hsent hdrain hcommit
    obtain rfl : part' = part := List.append_cancel_left (hevents'.symm.trans hevents)
    obtain ⟨hlast, hcounted, hall⟩ := ih
    refine ⟨?_, ?_, List.forall_mem_cons.2 ⟨hbalances, hall⟩⟩
    · rw [hlast, hevents, List.flatMap_cons, List.append_assoc]
    · rw [hcounted, hreport, List.flatMap_cons, PassReport.ofEvents_append, PassReport.add_assoc]

/-- A batch that is written is in one of the shares. -/
theorem exists_share_of_batch {batch : Batch}
    (h : batch ∈ batches (shares.flatMap Share.events)) :
    ∃ share ∈ shares, batch ∈ batches share.events := by
  obtain ⟨event, hevent, hbatch⟩ := List.mem_filterMap.1 h
  obtain ⟨share, hshare, hmem⟩ := List.mem_flatMap.1 hevent
  exact ⟨share, hshare, List.mem_filterMap.2 ⟨event, hmem, hbatch⟩⟩

/-- There are as many commits as workers that moved. -/
theorem countP_of_balances (h : ∀ share ∈ shares, p.Balances share) :
    (shares.flatMap Share.events).countP PassEvent.IsCommitted =
      shares.countP fun share => share.worker.HasAdvanced := by
  induction shares with
  | nil => rfl
  | cons share rest ih =>
    obtain ⟨hshare, hrest⟩ := List.forall_mem_cons.1 h
    rw [List.flatMap_cons, List.countP_append, ih hrest, hshare.commits, List.countP_cons,
      Nat.add_comm]
    simp only [decide_eq_true_eq]

/-- Shares that balance add up. -/
theorem addsUp_of_balances (h : ∀ share ∈ shares, p.Balances share) :
    p.AddsUp shares (.ofEvents p.decode (shares.flatMap Share.events)) := by
  have hlimit : 0 < max p.loader.batchSize 1 :=
    Nat.lt_of_lt_of_le Nat.zero_lt_one (Nat.le_max_right _ _)
  have hlength {share : Share} (hshare : share ∈ shares) :
      (batches share.events).flatten.length = (yielded p.decode share.events).length :=
    length_of_entriesOf (h share hshare).entries
  have hyielded := sum_shares (fun events => (yielded p.decode events).length) rfl
    (fun _ _ => by simp) shares
  have hentries := sum_shares (fun events => (batches events).flatten.length) rfl
    (fun _ _ => by simp) shares
  have hbatches := sum_shares (fun events => (batches events).length) rfl
    (fun _ _ => by simp) shares
  have hloaded : (batches (shares.flatMap Share.events)).flatten.length =
      (yielded p.decode (shares.flatMap Share.events)).length := by
    rw [hentries, hyielded]
    exact congrArg List.sum (List.map_congr_left fun share hshare => hlength hshare)
  refine ⟨rfl, ?_, hloaded, List.length_flatten, rfl, fun share hshare => (h share hshare).entries,
    ?_, rfl, ?_, ?_⟩
  · change (yielded p.decode (shares.flatMap Share.events)).length = _
    rw [hyielded]
    exact congrArg List.sum (List.map_congr_left fun share hshare => (h share hshare).emitted.symm)
  · change (batches (shares.flatMap Share.events)).length = _
    rw [hbatches]
    refine congrArg List.sum (List.map_congr_left fun share hshare => ?_)
    rw [← hlength hshare]
    exact (h share hshare).filled.length_eq hlimit
  · exact countP_of_balances h
  · rw [PassReport.hasUpdates_eq_false]
    refine and_congr ?_ ?_
    · change (batches (shares.flatMap Share.events)).flatten.length = 0 ↔ _
      rw [List.length_eq_zero_iff, List.flatten_eq_nil_iff]
      refine ⟨fun hempty => List.eq_nil_iff_forall_not_mem.2 fun batch hbatch => ?_, ?_⟩
      · obtain ⟨share, hshare, hmem⟩ := exists_share_of_batch hbatch
        exact (h share hshare).filled.ne_nil hlimit batch hmem (hempty batch hbatch)
      · intro hnone
        rw [hnone]
        simp
    · exact List.countP_eq_zero.trans (forall₂_congr fun event _ => by simp)

/-- The report of an answered pass adds up, whatever the source answered. -/
theorem report_adds_up (p : Pipeline ω ρ) (source : Source ω) (store : Store ω) (allowance : Nat)
    {book after : Book ω} {report : PassReport} (hsent : p.loader.ReportsSent)
    (h : p.execute source store allowance book = (.ok report, after)) :
    ∃ shares,
      p.logged.execute source.logged store.logged allowance ⟨book.cursors, ⟨book.world, []⟩⟩ =
        (.ok report, ⟨after.cursors, ⟨after.world, shares.flatMap Share.events⟩⟩) ∧
      p.Shares source store allowance ⟨⟨book.cursors, ⟨book.world, []⟩⟩, .zero⟩ p.workers shares
        ⟨⟨after.cursors, ⟨after.world, shares.flatMap Share.events⟩⟩, report⟩ ∧
      p.AddsUp shares report := by
  have hreal := p.logged_execute source store allowance ⟨book.cursors, ⟨book.world, []⟩⟩
  rcases hlogged : p.logged.execute source.logged store.logged allowance
    ⟨book.cursors, ⟨book.world, []⟩⟩ with ⟨outcome, ⟨cursors, ⟨world, events⟩⟩⟩
  rw [hlogged] at hreal
  obtain ⟨houtcome, hafter⟩ := Prod.mk.inj (h.symm.trans hreal)
  obtain rfl : .ok report = outcome := houtcome
  obtain rfl : after = ⟨cursors, world⟩ := hafter
  have hrun := execute_eq_ok hlogged
  obtain ⟨shares, hshares⟩ := exists_shares hsent hrun
  obtain ⟨hevents, hreport, hbalances⟩ := hshares.counted hsent
  obtain rfl : events = shares.flatMap Share.events := hevents
  obtain rfl : report = .ofEvents p.decode (shares.flatMap Share.events) :=
    hreport.trans (PassReport.zero_add _)
  exact ⟨shares, rfl, hshares, addsUp_of_balances hbalances⟩

/-- A source that always has the same three genres. -/
def threeGenres : Source BulkServer where
  ask
    | .fetch _, w => (.ok (["a", "b", "c"].map fun id => ⟨id, .first, id⟩), w)
    | .probe _, w => (.ok none, w)
    | .enrich _ ids, w => (.ok (ids.map fun id => GenreRecord.toJson ⟨id, id, .first⟩), w)
    | .openScan .., w => (.ok (), w)
    | .closeScan, w => (.ok (), w)
    | .ping, w => (.ok (), w)

/-- A store that forgets. -/
def forgetful : Store BulkServer := ⟨fun _ => .ok ∅, fun _ w => (.ok (), w)⟩

/-- Every request is carried out. -/
def accepting : Nat → BulkFate
  | 0 => ⟨2, .ok (BulkIndex.answering [201, 201])⟩
  | 1 => ⟨1, .ok (BulkIndex.answering [201])⟩
  | 2 => ⟨2, .ok (BulkIndex.answering [200, 200])⟩
  | _ => ⟨1, .ok (BulkIndex.answering [200])⟩

/-- Two streams of genres, in batches of two. -/
def genresTwice : Pipeline BulkServer GenreRecord where
  name := "genres"
  aggregate := .genre
  workers := [.related "related" .genre, .root "genre" .genre]
  decode := GenreRecord.decode
  transform r := passDocument GenreDocument.toDocument r.transform
  loader := { BulkIndex.patientIndex with batchSize := 2 }.loader (BulkServer.client accepting) 4
  pageSize := 10

/-- Six records in two streams are four batches, not three. -/
theorem report_adds_up_genres :
    (genresTwice.execute threeGenres forgetful 10 ⟨∅, ⟨fun _ => none, []⟩⟩).1 =
        .ok ⟨6, 6, 4, 2⟩ ∧
      ∃ shares, genresTwice.AddsUp shares ⟨6, 6, 4, 2⟩ := by
  have hreport : (genresTwice.execute threeGenres forgetful 10 ⟨∅, ⟨fun _ => none, []⟩⟩).1 =
      .ok ⟨6, 6, 4, 2⟩ := by decide +kernel
  have hpass : genresTwice.execute threeGenres forgetful 10 ⟨∅, ⟨fun _ => none, []⟩⟩ =
      (.ok ⟨6, 6, 4, 2⟩,
        (genresTwice.execute threeGenres forgetful 10 ⟨∅, ⟨fun _ => none, []⟩⟩).2) := by
    rw [← hreport]
  obtain ⟨shares, -, -, hadds⟩ := report_adds_up genresTwice threeGenres forgetful 10
    (BulkIndex.reportsSent_loader _ _ _) hpass
  exact ⟨hreport, shares, hadds⟩

end Pipeline

end CatalogSync
