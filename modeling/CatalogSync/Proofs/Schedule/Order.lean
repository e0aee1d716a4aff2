import CatalogSync.Daemon.Pipelines
import CatalogSync.Proofs.Call.Retry
import CatalogSync.Proofs.Pass.Unchanging
import CatalogSync.Proofs.Sync.Replica
import CatalogSync.Settings.Validation
import Mathlib.Data.List.Nodup

/-!
# Pipelines that take turns

The pipelines of a catalog move different streams, and none reads a stream of another. Over data
that do not change they may therefore run in any order: if all of their passes end well, every
stream comes to stand at the same cursor.
-/

namespace CatalogSync

variable {ω σ : Type}

namespace Job

/-- The book after one pass of each job, in this order, if all of these passes end well. -/
def afterAll? : List (Job ω) → Book ω → Option (Book ω)
  | [], b => some b
  | job :: rest, b =>
    match job.execute b with
    | (.ok _, after) => afterAll? rest after
    | _ => none

/-- Where a pass of the job that ends well leaves the streams depends on the book in nothing but
where they stood, and of its own streams only on these. -/
structure IsDetermined (job : Job ω) : Prop where
  others : ∀ {b after : Book ω} {report : PassReport}, job.execute b = (.ok report, after) →
    ∀ s, s ∉ job.streams → after.position s = b.position s
  own : ∀ {b b' after after' : Book ω} {report report' : PassReport},
    (∀ s ∈ job.streams, b'.position s = b.position s) → job.execute b = (.ok report, after) →
    job.execute b' = (.ok report', after') → ∀ s ∈ job.streams, after'.position s = after.position s

variable {job : Job ω} {jobs jobs' rest : List (Job ω)} {b b' b'' : Book ω}

theorem afterAll?_cons_eq_some : afterAll? (job :: rest) b = some b' ↔
    ∃ report after, job.execute b = (.ok report, after) ∧ afterAll? rest after = some b' := by
  rcases h : job.execute b with ⟨report | _ | _, after⟩
  · simp only [afterAll?, h]
    constructor
    · intro hrest
      exact ⟨report, after, rfl, hrest⟩
    · rintro ⟨_, _, heq, hrest⟩
      cases heq
      exact hrest
  · simp [afterAll?, h]
  · simp [afterAll?, h]

/-- A stream of no job is not moved. -/
theorem afterAll?_others (hjobs : ∀ job ∈ jobs, job.IsDetermined) (h : afterAll? jobs b = some b')
    {s : String} (hs : ∀ job ∈ jobs, s ∉ job.streams) : b'.position s = b.position s := by
  induction jobs generalizing b with
  | nil =>
    cases h
    rfl
  | cons job rest ih =>
    obtain ⟨report, after, hrun, hrest⟩ := afterAll?_cons_eq_some.1 h
    have hrest := ih (fun j hj => hjobs j (List.mem_cons_of_mem _ hj)) hrest fun j hj =>
      hs j (List.mem_cons_of_mem _ hj)
    rw [hrest, (hjobs job List.mem_cons_self).others hrun s (hs job List.mem_cons_self)]

/-- Each job finds its streams where they stood at the start, and where it leaves them they stay. -/
theorem afterAll?_own (hjobs : ∀ job ∈ jobs, job.IsDetermined)
    (hapart : jobs.Pairwise fun j k => j.streams.Disjoint k.streams)
    (h : afterAll? jobs b = some b') (hjob : job ∈ jobs) :
    ∃ report c after, (∀ s ∈ job.streams, c.position s = b.position s) ∧
      job.execute c = (.ok report, after) ∧
      ∀ s ∈ job.streams, b'.position s = after.position s := by
  induction jobs generalizing b with
  | nil => cases hjob
  | cons first rest ih =>
    obtain ⟨report, after, hrun, hrest⟩ := afterAll?_cons_eq_some.1 h
    obtain ⟨hfirst, hapart⟩ := List.pairwise_cons.1 hapart
    have hjobs' : ∀ j ∈ rest, j.IsDetermined := fun j hj => hjobs j (List.mem_cons_of_mem _ hj)
    rcases List.mem_cons.1 hjob with rfl | hjob
    · refine ⟨report, b, after, fun _ _ => rfl, hrun, fun s hs => ?_⟩
      exact afterAll?_others hjobs' hrest fun j hj => hfirst j hj hs
    · obtain ⟨report', c, after', hstart, hrun', hleft⟩ := ih hjobs' hapart hrest hjob
      refine ⟨report', c, after', fun s hs => ?_, hrun', hleft⟩
      rw [hstart s hs, (hjobs first List.mem_cons_self).others hrun s fun hown =>
        hfirst job hjob hown hs]

/-- Jobs of different streams may run in any order. -/
theorem afterAll?_perm (hjobs : ∀ job ∈ jobs, job.IsDetermined)
    (hapart : jobs.Pairwise fun j k => j.streams.Disjoint k.streams) (hperm : jobs'.Perm jobs)
    (h : afterAll? jobs b = some b') (h' : afterAll? jobs' b = some b'') (s : String) :
    b''.position s = b'.position s := by
  have hjobs' : ∀ job ∈ jobs', job.IsDetermined := fun job hjob => hjobs job (hperm.mem_iff.1 hjob)
  have hapart' : jobs'.Pairwise fun j k => j.streams.Disjoint k.streams :=
    hapart.perm hperm.symm fun hjk _ hk hj => hjk hj hk
  by_cases howned : ∃ job ∈ jobs, s ∈ job.streams
  · obtain ⟨job, hjob, hs⟩ := howned
    obtain ⟨report, c, after, hstart, hrun, hleft⟩ := afterAll?_own hjobs hapart h hjob
    obtain ⟨report', c', after', hstart', hrun', hleft'⟩ :=
      afterAll?_own hjobs' hapart' h' (hperm.mem_iff.2 hjob)
    have hsame : ∀ t ∈ job.streams, c'.position t = c.position t := fun t ht =>
      (hstart' t ht).trans (hstart t ht).symm
    rw [hleft s hs, hleft' s hs, (hjobs job hjob).own hsame hrun hrun' s hs]
  · have hnone : ∀ job ∈ jobs, s ∉ job.streams := fun job hjob hs => howned ⟨job, hjob, hs⟩
    rw [afterAll?_others hjobs h hnone,
      afterAll?_others hjobs' h' fun job hjob => hnone job (hperm.mem_iff.1 hjob)]

end Job

/-- When all passes of a cycle end well, the scheduler leaves the book as they do. -/
theorem Scheduler.runJobs_book (clock : Clock ω) {jobs : List (Job ω)} {s : Scheduler ω}
    {after : Book ω} (h : Job.afterAll? jobs s.book = some after) :
    ∃ totals s', runJobs clock jobs s = (.ok totals, s') ∧ s'.book = after := by
  induction jobs generalizing s with
  | nil =>
    cases h
    exact ⟨.zero, s, rfl, rfl⟩
  | cons job rest ih =>
    obtain ⟨report, next, hrun, hrest⟩ := Job.afterAll?_cons_eq_some.1 h
    have hjob :
        ∃ registry, runJob clock job s = (.ok report, { s with book := next, registry }) := by
      simp only [runJob, hrun]
      exact ⟨_, rfl⟩
    obtain ⟨registry, hjob⟩ := hjob
    obtain ⟨totals, s', hruns, hbook⟩ := ih (s := { s with book := next, registry }) hrest
    refine ⟨report + totals, s', ?_, hbook⟩
    rw [runJobs, Call.bind_of_ok hjob, Call.bind_of_ok hruns]
    rfl

/-- A pipeline over data that do not change, whose loader spares them. -/
theorem Pipeline.isDetermined_job {ρ : Type} {p : Pipeline ω ρ} {source : Source ω} {part : ω → σ}
    {r : Reference σ} (hsource : source.Follows part r) (hloader : p.loader.Spares part)
    (store : Store ω) (allowance : Nat) : (p.job source store allowance).IsDetermined where
  others h _ hs := execute_others hsource hloader h hs
  own hstart h h' := execute_determined hsource hloader hstart h h'

/-- The requests of the client leave a part of the world alone. -/
def Http.Client.Spares (client : Http.Client ω) (part : ω → σ) : Prop :=
  ∀ request w, part (client.send request w).2 = part w

/-- An index leaves alone what its client leaves alone, however often a batch is sent. -/
theorem BulkIndex.spares_loader {φ : Type} [Growth φ] {client : Http.Client ω} {part : ω → σ}
    (h : client.Spares part) (i : BulkIndex φ) (allowance : Nat) :
    (i.loader client allowance).Spares part := by
  intro batch w
  have hpost (body : String) (sent : Nat) :
      (i.post client body sent).Keeps fun u => part u = part w := by
    refine Call.keeps_of_ends fun t ht => ?_
    have hsent := (h (i.bulkRequest body) t).trans ht
    simp only [post, send, Call.ends_bind, Call.ends_mapError]
    refine (Call.ends_of_left (P := fun u => part u = part w) hsent).mono (fun response u hu => ?_)
      fun _ _ => id
    rw [Call.ends_ofExcept]
    split <;> exact hu
  cases batch with
  | nil => rfl
  | cons entry rest => exact Policy.keeps_retry (hpost _ _) w rfl

namespace CatalogPipelines

/-- The streams of all pipelines. -/
def streams (p : CatalogPipelines ω) : List String :=
  p.movies.streams ++ p.persons.streams ++ p.genres.streams

variable {φ : Type} [Growth φ]

/-- The pipelines move the streams that the settings name. -/
theorem streams_ofSettings (s : Settings) (policy : Policy φ) (client : Http.Client ω)
    (allowance : Nat) : (ofSettings s policy client allowance).streams.Perm s.streams.names := by
  change ([s.streams.filmWorkPerson, s.streams.filmWorkGenre, s.streams.filmWorkMark] ++
    [s.streams.filmWork] ++ [s.streams.person, s.streams.genre]).Perm
      ([s.streams.filmWork] ++ [s.streams.filmWorkPerson, s.streams.filmWorkGenre,
        s.streams.filmWorkMark] ++ [s.streams.person, s.streams.genre])
  exact List.perm_append_comm.append_right _

theorem isDetermined_of_mem_jobs (settings : Settings) (policy : Policy φ) {client : Http.Client ω}
    (loads : Nat) {source : Source ω} {part : ω → σ} {r : Reference σ}
    (hsource : source.Follows part r) (hclient : client.Spares part) (store : Store ω)
    (allowance : Nat) :
    ∀ job ∈ (ofSettings settings policy client loads).jobs source store allowance,
      job.IsDetermined := by
  intro job hjob
  simp only [jobs, List.mem_cons, List.not_mem_nil, or_false] at hjob
  rcases hjob with rfl | rfl | rfl
  · exact Pipeline.isDetermined_job hsource
      (BulkIndex.spares_loader hclient _ loads) store allowance
  · exact Pipeline.isDetermined_job hsource
      (BulkIndex.spares_loader hclient _ loads) store allowance
  · exact Pipeline.isDetermined_job hsource
      (BulkIndex.spares_loader hclient _ loads) store allowance

/-- Pipelines without a common stream are jobs without one. -/
theorem pairwise_jobs {p : CatalogPipelines ω} (h : p.streams.Nodup) (source : Source ω)
    (store : Store ω) (allowance : Nat) :
    (p.jobs source store allowance).Pairwise fun j k => j.streams.Disjoint k.streams := by
  have hflat : ((p.jobs source store allowance).flatMap Job.streams).Nodup := by
    rw [streams, List.append_assoc] at h
    simpa [jobs, Pipeline.job] using h
  exact (List.nodup_flatMap.1 hflat).2

/-- The pipelines of settings that pass the check move the six streams that these name, each of them
another. What a pass does, and how it moves its own streams, depends on no other stream, and no
other stream is moved, in the book or in the store. Two runs are compared here over stores that
behave in the same way in both: one that refuses a commit for what it holds of other streams would
tell them apart. Over data that do not change the pipelines may therefore run in any order. -/
theorem pipelines_stay_apart {settings : Settings} (hvalid : settings.violation? = none)
    (policy : Policy φ) (client : Http.Client ω) (loads : Nat) :
    let p := ofSettings settings policy client loads
    (p.streams.Perm settings.streams.names ∧ p.streams.Nodup) ∧
    (∀ {ν ρ : Type} (q : Pipeline ν ρ) (source : Source ν)
        (answer : CursorMap → ν → Except StateError Unit × ν) (allowance : Nat)
        (b b' : Book (Kept ν)),
      Kept.Blind q.streams answer → b.IsKept → b'.IsKept → b'.world.world = b.world.world →
      (∀ s ∈ q.streams, b'.position s = b.position s) →
      ∃ outcome after after' events events',
        q.Goes source answer allowance b outcome after events ∧
        q.Goes source answer allowance b' outcome after' events' ∧
        calls events' = calls events ∧ after'.world.world = after.world.world ∧
        (∀ s ∈ q.streams, after'.position s = after.position s) ∧
        ∀ s, s ∉ q.streams → after.position s = b.position s ∧
          after.world.held.position s = b.world.held.position s ∧
          after'.position s = b'.position s ∧
          after'.world.held.position s = b'.world.held.position s) ∧
    ∀ {σ : Type} (source : Source ω) (part : ω → σ) (r : Reference σ) (store : Store ω)
        (allowance : Nat) (orders orders' : List (Job ω)) (b after after' : Book ω),
      source.Follows part r → client.Spares part →
      orders.Perm (p.jobs source store allowance) → orders'.Perm (p.jobs source store allowance) →
      Job.afterAll? orders b = some after → Job.afterAll? orders' b = some after' →
      ∀ s, after'.position s = after.position s := by
  intro p
  have hperm : p.streams.Perm settings.streams.names := streams_ofSettings ..
  have hnodup : p.streams.Nodup := hperm.nodup_iff.2 (Settings.nodup_names hvalid)
  refine ⟨⟨hperm, hnodup⟩, ?_, ?_⟩
  · intro ν ρ q source answer allowance b b' hblind hb hb' hworld hpositions
    obtain ⟨outcome, after, events, hgoes⟩ := q.exists_goes source answer allowance b
    obtain ⟨outcome', after', events', hgoes'⟩ := q.exists_goes source answer allowance b'
    obtain ⟨rfl, hcalls, houtside, hown, hmoves, hmoves'⟩ :=
      Pipeline.goes_alike hblind hb hb' hworld hpositions hgoes hgoes'
    refine ⟨outcome', after, after', events, events', hgoes, hgoes', hcalls, houtside, hown, ?_⟩
    intro s hs
    exact ⟨hmoves.others s hs, hmoves.held hb hs, hmoves'.others s hs, hmoves'.held hb' hs⟩
  · intro σ source part r store allowance orders orders' b after after' hsource hclient horders
      horders' hafter hafter'
    have hjobs : ∀ job ∈ orders, job.IsDetermined := fun job hjob =>
      isDetermined_of_mem_jobs settings policy loads hsource hclient store allowance job
        (horders.mem_iff.1 hjob)
    have hapart : orders.Pairwise fun j k => j.streams.Disjoint k.streams :=
      (pairwise_jobs hnodup source store allowance).perm horders.symm fun hjk _ hk hj => hjk hj hk
    exact Job.afterAll?_perm hjobs hapart (horders'.trans horders.symm) hafter hafter'

/-- A film, a genre of it that was changed later, and a person of no film. -/
def oneOfEach : Catalog where
  films := .ofList [("f", ⟨"Up", none, none, none, "movie", .first⟩)]
  named
    | .person => .ofList [("p", ⟨"Ed", .first⟩)]
    | .genre => .ofList [("g", ⟨"Drama", (Timestamp.of? Timestamp.first.date 60 0).getD .first⟩)]
    | _ => ∅
  links
    | .genre => [⟨"g", "f", ""⟩]
    | _ => []

/-- The aggregate of a row that is there; the person took part in no film. -/
def aggregate? : Aggregate → String → Option Json
  | .filmWork, id => oneOfEach.filmDocument id
  | .person, id => ((oneOfEach.named .person).get? id).map fun row =>
    PersonRecord.toJson ⟨id, row.name, row.modified, []⟩
  | .genre, id => ((oneOfEach.named .genre).get? id).map fun row =>
    GenreRecord.toJson ⟨id, row.name, row.modified⟩

/-- What is answered over these rows, from the scan that is open. -/
def oneOfEachReference : Reference ScanState where
  answer
    | .openScan selection start root, _ => ((), .opened selection start root)
    | .fetch count, .opened selection start root =>
      let rows := oneOfEach.scanRows selection start root
      (rows.take count, .reading oneOfEach (rows.drop count))
    | .fetch count, .reading snapshot rest => (rest.take count, .reading snapshot (rest.drop count))
    | .fetch _, .closed => ([], .closed)
    | .closeScan, _ => ((), .closed)
    | .probe entity, scan => (oneOfEach.greatest? entity, scan)
    | .enrich aggregate ids, scan => (ids.filterMap (aggregate? aggregate), scan)
    | .ping, scan => ((), scan)
  forgets _ _ _ _ _ := rfl

/-- An index that accepts one document at a time. -/
def oneByOne : Http.Client ScanState :=
  ⟨fun _ => pure ⟨200, "\x7b\"items\":[\x7b\"index\":\x7b\"status\":201\x7d\x7d]\x7d"⟩⟩

def plain : Settings := { state := ⟨"cursors.json"⟩ }

def plainPipelines : CatalogPipelines ScanState :=
  ofSettings plain plain.retry.policy oneByOne 1

/-- Nothing was read yet. -/
def unread : Book (Kept ScanState) := ⟨∅, ⟨.closed, ∅⟩⟩

/-- Only the genre was read. -/
def genreRead : Book (Kept ScanState) :=
  let cursors : CursorMap := .ofList [("genre", some (.ofRow .first "g"))]
  ⟨cursors, ⟨.closed, cursors⟩⟩

/-- Every commit is accepted. -/
def accept (_ : CursorMap) (scan : ScanState) : Except StateError Unit × ScanState := (.ok (), scan)

def plainJobs : List (Job ScanState) :=
  plainPipelines.jobs oneOfEachReference.source ⟨fun _ => .ok ∅, accept⟩ 100

/-- The films are loaded alike whether or not the genre was read as such, and the three pipelines
may run the other way round. -/
theorem plain_pipelines_stay_apart :
    plain.violation? = none ∧ plainPipelines.streams.Nodup ∧
    (∃ after after' events events',
      plainPipelines.movies.Goes oneOfEachReference.source accept 100 unread (.ok ⟨2, 2, 2, 3⟩)
        after events ∧
      plainPipelines.movies.Goes oneOfEachReference.source accept 100 genreRead (.ok ⟨2, 2, 2, 3⟩)
        after' events' ∧
      calls events' = calls events ∧
      after'.world.held.position "genre" = genreRead.world.held.position "genre") ∧
    ∃ after after', Job.afterAll? plainJobs ⟨∅, .closed⟩ = some after ∧
      Job.afterAll? plainJobs.reverse ⟨∅, .closed⟩ = some after' ∧
      ∀ s, after'.position s = after.position s := by
  have hvalid : plain.violation? = none := by decide +kernel
  obtain ⟨⟨-, hnodup⟩, halike, horders⟩ :=
    pipelines_stay_apart hvalid plain.retry.policy oneByOne 1
  refine ⟨hvalid, hnodup, ?_, ?_⟩
  · have hpositions : ∀ s ∈ plainPipelines.movies.streams,
        genreRead.position s = unread.position s := by decide +kernel
    have hreport : (plainPipelines.movies.kept.execute oneOfEachReference.source.kept
        (Kept.store accept) 100 unread).1 = .ok ⟨2, 2, 2, 3⟩ := by decide +kernel
    have hforeign : "genre" ∉ plainPipelines.movies.streams := by decide +kernel
    obtain ⟨outcome, after, after', events, events', hgoes, hgoes', hcalls, -, -, hothers⟩ :=
      halike plainPipelines.movies oneOfEachReference.source accept 100 unread genreRead
        (fun _ _ _ => rfl) (fun _ => rfl) (fun _ => rfl) rfl hpositions
    rw [hgoes.1] at hreport
    obtain rfl : outcome = .ok ⟨2, 2, 2, 3⟩ := hreport
    exact ⟨after, after', events, events', hgoes, hgoes', hcalls, (hothers _ hforeign).2.2.2⟩
  · have hforth : (Job.afterAll? plainJobs ⟨∅, .closed⟩).isSome := by decide +kernel
    have hback : (Job.afterAll? plainJobs.reverse ⟨∅, .closed⟩).isSome := by decide +kernel
    obtain ⟨after, hafter⟩ := Option.isSome_iff_exists.1 hforth
    obtain ⟨after', hafter'⟩ := Option.isSome_iff_exists.1 hback
    refine ⟨after, after', hafter, hafter', ?_⟩
    refine horders oneOfEachReference.source id oneOfEachReference _ 100 plainJobs
      plainJobs.reverse ⟨∅, .closed⟩ after after' ?_ (fun _ _ => rfl) (.refl _)
      plainJobs.reverse_perm hafter hafter'
    intro call scan answer scan' hask
    cases hask
    rfl

end CatalogPipelines

end CatalogSync
