import CatalogSync.Daemon.Pipelines
import CatalogSync.Proofs.Pass.Rule
import CatalogSync.Proofs.Sync.Scan

/-!
# What a drained worker leaves settled

While a worker over films is drained, every film behind a fresh row that it was given is in its
hand, is placed in a batch, or is settled but for what was stamped since the snapshot of its scan.
Once it is drained, nothing is in its hand or placed any more, and it was given the whole scan.
-/

namespace CatalogSync

/-- A pipeline that carries the changes of films into an index. -/
def filmPipeline {ω : Type} (name : String) (workers : List WorkerSpec) (loader : Loader ω)
    (pageSize : Nat) : Pipeline ω FilmRecord where
  name
  aggregate := .filmWork
  workers
  decode := FilmRecord.decode
  transform r := passDocument FilmDocument.toDocument r.transform
  loader
  pageSize

variable {ω : Type} {v : View ω}

/-- The entry of a record is the one that the catalog has for its film. -/
theorem View.Saw.entryOf {name : String} {workers : List WorkerSpec} {loader : Loader ω}
    {pageSize : Nat} {snapshot : Catalog} {world : ω} {record : FilmRecord} {entry : Entry}
    (h : v.Saw snapshot world (·.filmRecord? record.id = some record))
    (hentry : (filmPipeline name workers loader pageSize).entryOf record = .ok entry) :
    entry.id = record.id ∧
      v.Saw snapshot world (·.filmSource? entry.id = some entry.source) := by
  obtain ⟨c, hbefore, hafter, hfilm⟩ := h
  obtain ⟨document, htransform, hid, hsource⟩ := Pipeline.entryOf_eq_ok hentry
  change passDocument FilmDocument.toDocument record.transform = .ok document at htransform
  cases hrecord : record.transform with
  | error e =>
    rw [hrecord] at htransform
    cases htransform
  | ok film =>
    rw [hrecord] at htransform
    obtain rfl := Except.ok.inj htransform
    have hsource : film.toJson = entry.source := Except.ok.inj hsource
    have hid : entry.id = record.id := hid.symm.trans (FilmRecord.transform_id hrecord)
    refine ⟨hid, c, hbefore, hafter, ?_⟩
    simp only [Catalog.filmSource?, hid, hfilm, ← hsource]
    simp [hrecord, Except.toOption]

/-- What became of the films behind the rows that a worker was given, while it is drained. -/
structure Carried (v : View ω) (w₀ : ω) (w : Worker) (snapshot : Catalog) (seen : List ChangeRow)
    (hand : List FilmRecord) (placed : List Entry) (x : Extraction ω) : Prop where
  follows : v.Follows (v.catalog w₀) w₀ x.world
  before : (v.catalog w₀).Edited snapshot
  scanning : Scanning v w snapshot seen x
  begun : seen = [] → hand = [] ∧ placed = []
  records : ∀ record ∈ hand, v.Saw snapshot x.world (·.filmRecord? record.id = some record)
  sources : ∀ entry ∈ placed,
    v.Saw snapshot x.world (·.filmSource? entry.id = some entry.source)
  films : ∀ r ∈ seen, w.start < r.cursor →
    (∃ record ∈ hand, record.id = r.rootId) ∨ (∃ entry ∈ placed, entry.id = r.rootId) ∨
      (v.catalog x.world).Settled (v.index x.world) filmSelections snapshot.Since r.rootId

namespace Carried

variable {w₀ : ω} {w : Worker} {snapshot snapshot' : Catalog} {seen rows : List ChangeRow}
  {hand records : List FilmRecord} {placed : List Entry} {x x' : Extraction ω}

theorem turn (h : Carried v w₀ w snapshot seen [] placed x) (hsteady : v.Steady x.world x'.world)
    (hlater : snapshot.Edited snapshot') (hkept : seen = [] ∨ snapshot' = snapshot)
    (hx' : Scanning v w snapshot' (seen ++ rows) x')
    (hyields : v.Yields w snapshot' rows x'.world records) :
    Carried v w₀ w snapshot' (seen ++ rows) records placed x' where
  follows := h.follows.trans (hsteady.follows h.follows.edited)
  before := h.before.trans hlater
  scanning := hx'
  begun hnil := by
    obtain ⟨hseen, hrows⟩ := List.append_eq_nil_iff.1 hnil
    exact ⟨hyields.none hrows, (h.begun hseen).2⟩
  records := hyields.seen
  sources entry hentry := by
    rcases hkept with hnil | rfl
    · rw [(h.begun hnil).2] at hentry
      cases hentry
    · exact (h.sources entry hentry).edited hsteady.edited
  films r hr hlt := by
    rcases List.mem_append.1 hr with hr | hr
    · rcases hkept with rfl | rfl
      · cases hr
      · have hfollows := hsteady.follows h.scanning.edited
        rcases h.films r hr hlt with ⟨_, hnone, -⟩ | hplaced | hsettled
        · cases hnone
        · exact .inr (.inl hplaced)
        · exact .inr (.inr (hfollows.settled _ _ (fun _ _ _ _ ht => ht) hsettled))
    · exact .inl (hyields.found r hr hlt)

theorem place {record : FilmRecord} {entry : Entry}
    (h : Carried v w₀ w snapshot seen (record :: hand) placed x) (hid : entry.id = record.id)
    (hsource : v.Saw snapshot x.world (·.filmSource? entry.id = some entry.source)) :
    Carried v w₀ w snapshot seen hand (placed ++ [entry]) x where
  follows := h.follows
  before := h.before
  scanning := h.scanning
  begun hnil := by cases (h.begun hnil).1
  records other hother := h.records other (List.mem_cons_of_mem _ hother)
  sources other hother := by
    rcases List.mem_append.1 hother with hother | hother
    · exact h.sources other hother
    · obtain rfl := List.mem_singleton.1 hother
      exact hsource
  films r hr hlt := by
    rcases h.films r hr hlt with ⟨other, hother, hroot⟩ | ⟨other, hother, hroot⟩ | hsettled
    · rcases List.mem_cons.1 hother with rfl | hother
      · exact .inr (.inl ⟨entry, by simp, hid.trans hroot⟩)
      · exact .inl ⟨other, hother, hroot⟩
    · exact .inr (.inl ⟨other, List.mem_append_left _ hother, hroot⟩)
    · exact .inr (.inr hsettled)

variable {loader : Loader ω} {batch : Batch}

/-- A batch stores nothing but what the catalog has had for its films since the snapshot. -/
theorem follows_write (h : Carried v w₀ w snapshot seen hand (batch ++ placed) x)
    (hloader : loader.KeepsContract v) :
    v.Follows snapshot x.world (loader.write batch x.world).2 := by
  obtain ⟨hedited, -⟩ := hloader.steady batch x.world
  refine .of_stored h.scanning.edited hedited fun id => ?_
  rcases hloader.stores batch x.world id with hindex | ⟨source, hentry, hindex⟩
  · exact .inl hindex
  · obtain ⟨c, hbefore, hafter, hsource⟩ := h.sources _ (List.mem_append_left _ hentry)
    exact .inr ⟨source, c, hindex, hbefore, hafter.trans hedited, hsource⟩

/-- Once a batch is accepted in full, the films of its entries are settled. -/
theorem write (h : Carried v w₀ w snapshot seen hand (batch ++ placed) x)
    (hloader : loader.KeepsContract v) {result : LoadResult} {world : ω}
    (hwrite : loader.write batch x.world = (.ok result, world)) (hverified : result.IsVerified) :
    Carried v w₀ w snapshot seen hand placed { x with world } := by
  have hfollows := h.follows_write hloader
  obtain ⟨hedited, hscan⟩ := hloader.steady batch x.world
  rw [hwrite] at hfollows hedited hscan
  refine ⟨h.follows.trans (hfollows.of_base h.before), h.before, ?_, fun hnil => ?_, ?_, ?_, ?_⟩
  · refine h.scanning.congr (.refl _) hedited h.scanning.behind rfl ?_
    rw [hscan]
    exact h.scanning.stage
  · obtain ⟨hhand, hplaced⟩ := h.begun hnil
    exact ⟨hhand, (List.append_eq_nil_iff.1 hplaced).2⟩
  · exact fun record hrecord => (h.records record hrecord).edited hedited
  · exact fun entry hentry =>
      (h.sources entry (List.mem_append_right _ hentry)).edited hedited
  · intro r hr hlt
    rcases h.films r hr hlt with hhand | ⟨entry, hentry, hroot⟩ | hsettled
    · exact .inl hhand
    · rcases List.mem_append.1 hentry with hentry | hentry
      · obtain ⟨source, hmem, hindex⟩ := hloader.accepts batch _ _ _ hwrite hverified entry hentry
        obtain ⟨c, hbefore, hafter, hsource⟩ := h.sources _ (List.mem_append_left _ hmem)
        have hafter : c.Edited (v.catalog world) := hafter.trans hedited
        rw [← hroot]
        refine .inr (.inr (hafter.settled_of_source (fun _ _ _ _ ht => ?_) hsource hindex))
        exact hbefore.later ht
      · exact .inr (.inl ⟨entry, hentry, hroot⟩)
    · exact .inr (.inr (hfollows.settled _ _ (fun _ _ _ _ ht => ht) hsettled))

end Carried

section

variable {source : Source ω} {loader : Loader ω} {name : String} {workers : List WorkerSpec}
  {pageSize allowance : Nat} {w : Worker}

/-- Draining a worker over films carries the films of its scan. -/
theorem drainRule_carried (hsource : source.KeepsContract v) (hloader : loader.KeepsContract v)
    (haggregate : w.aggregate = .filmWork) (hselection : w.spec.selection ∈ filmSelections)
    (hsize : 0 < w.pageSize) (w₀ : ω) :
    (filmPipeline name workers loader pageSize).DrainRule source w.spec.stream allowance
      (fun hand placed x => ∃ snapshot seen, Carried v w₀ w snapshot seen hand placed x)
      (fun w' => ∃ reason, w'.phase = .finished reason)
      (fun _ x => v.Follows (v.catalog w₀) w₀ x.world) where
  page placed x hx := by
    refine Call.ends_untilSome
      (I := fun x => ∃ snapshot seen, Carried v w₀ w snapshot seen [] placed x) (fun x hx => ?_)
      (fun x ⟨_, _, hx⟩ => hx.follows) allowance hx
    obtain ⟨snapshot, seen, hx⟩ := hx
    refine (hx.scanning.ends_turn hsource haggregate hselection hsize (.refl v _)).mono
      (fun page x' hx' => ?_) fun _ x' hsteady => ?_
    · obtain ⟨hsteady, snapshot', rows, hlater, hkept, hx', hyields, hdone⟩ := hx'
      have hcarried := hx.turn hsteady hlater hkept hx' hyields
      cases page with
      | none => exact ⟨_, _, hcarried⟩
      | some page =>
        refine ⟨⟨_, _, hcarried⟩, fun reason hreason => ⟨reason, hdone reason ?_⟩⟩
        rw [hreason]
    · exact hx.follows.trans (hsteady.follows hx.follows.edited)
  place record hand placed entry x hx hentry := by
    obtain ⟨snapshot, seen, hx⟩ := hx
    obtain ⟨hid, hsource⟩ := (hx.records record (by simp)).entryOf hentry
    exact ⟨snapshot, seen, hx.place hid hsource⟩
  refuse record hand placed e x hx _ := by
    obtain ⟨_, _, hx⟩ := hx
    exact hx.follows
  write hand batch placed x hx := by
    obtain ⟨snapshot, seen, hx⟩ := hx
    have hfollows := hx.follows.trans ((hx.follows_write hloader).of_base hx.before)
    rw [Call.ends_iff]
    refine ⟨fun result world hwrite => ?_, fun e world hwrite => ?_, fun world hwrite => ?_⟩
    all_goals
      change loader.write batch x.world = _ at hwrite
      rw [hwrite] at hfollows
    · split
      · next hverified => exact ⟨snapshot, seen, hx.write hloader hwrite hverified⟩
      · exact hfollows
    · exact hfollows
    · exact hfollows
  unfinished placed x hx := by
    obtain ⟨_, _, hx⟩ := hx
    exact hx.follows

/-- The films of the rows that a worker has passed in its scan are settled, but for what was stamped
since the snapshot; its cursor stands before that. -/
structure View.Scanned (v : View ω) (snapshot : Catalog) (world : ω) (w : Worker) : Prop where
  edited : snapshot.Edited (v.catalog world)
  behind : snapshot.Behind w.cursor
  settled : ∀ r, snapshot.InScan w.spec.selection w.start w.root r → w.start < r.cursor →
    (v.catalog world).Settled (v.index world) filmSelections snapshot.Since r.rootId

theorem View.Scanned.steady {snapshot : Catalog} {world world' : ω} {w : Worker}
    (h : v.Scanned snapshot world w) (hsteady : v.Steady world world') :
    v.Scanned snapshot world' w where
  edited := h.edited.trans hsteady.edited
  behind := h.behind
  settled r hr hlt :=
    (hsteady.follows h.edited).settled _ _ (fun _ _ _ _ ht => ht) (h.settled r hr hlt)

theorem Carried.scanned {w w' : Worker} {w₀ world : ω} {snapshot : Catalog} {seen : List ChangeRow}
    (h : Carried v w₀ w snapshot seen [] [] ⟨w', world⟩) {reason : DoneReason}
    (hdone : w'.phase = .finished reason) : v.Scanned snapshot world w' where
  edited := h.scanning.edited
  behind := h.scanning.behind
  settled r hr hlt := by
    have hsame := h.scanning.same
    have hstage := h.scanning.stage
    simp only [hdone] at hstage
    rw [hsame.spec, hsame.start, hsame.root] at hr
    rw [hsame.start] at hlt
    cases hstage with
    | finished hscan =>
      rcases h.films r ((hscan.mem_iff r).2 hr) hlt with ⟨_, hnone, -⟩ | ⟨_, hnone, -⟩ | hsettled
      · cases hnone
      · cases hnone
      · exact hsettled

/-- A worker that is drained has scanned its stream. Whatever comes of it, films stay settled. -/
theorem ends_drain_scanned (hsource : source.KeepsContract v) (hloader : loader.KeepsContract v)
    {spec : WorkerSpec} (hselection : spec.selection ∈ filmSelections) {st : Pipeline.PassState ω}
    (hbehind : (v.catalog st.book.world).Behind (st.book.position spec.stream)) :
    ((filmPipeline name workers loader pageSize).drain source spec allowance).Ends
      (fun w st' => st'.book.cursors = st.book.cursors ∧
        v.Follows (v.catalog st.book.world) st.book.world st'.book.world ∧
        ((filmPipeline name workers loader pageSize).workerOf spec st.book.cursors).IsSame w ∧
        ∃ snapshot, (v.catalog st.book.world).Edited snapshot ∧
          v.Scanned snapshot st'.book.world w)
      (fun _ st' => st'.book.cursors = st.book.cursors ∧
        v.Follows (v.catalog st.book.world) st.book.world st'.book.world) st := by
  let w := (filmPipeline name workers loader pageSize).workerOf spec st.book.cursors
  have hsize : 0 < w.pageSize := Nat.lt_of_lt_of_le Nat.one_pos (Nat.le_max_right ..)
  refine ((drainRule_carried hsource hloader rfl hselection hsize st.book.world).ends_drain
    ⟨v.catalog st.book.world, [], ?_⟩).mono (fun w' st' h => ?_) fun _ st' h => ?_
  · refine
      ⟨.refl v _ _, .refl, ⟨.refl w, .refl, hbehind, rfl, .idle⟩, fun _ => ⟨rfl, rfl⟩, ?_, ?_, ?_⟩
    all_goals simp
  · obtain ⟨hcursors, ⟨reason, hdone⟩, snapshot, seen, h⟩ := h
    exact ⟨hcursors, h.follows, h.scanning.same, snapshot, h.before, h.scanned hdone⟩
  · obtain ⟨hcursors, _, h⟩ := h
    exact ⟨hcursors, h⟩

end

end CatalogSync
