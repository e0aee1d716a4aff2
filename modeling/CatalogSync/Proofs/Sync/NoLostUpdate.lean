import CatalogSync.Proofs.Sync.Drain
import CatalogSync.Proofs.Sync.Replica

/-!
# No update is lost

The films of a catalog are followed by four streams. Whatever edits and passes happened, and however
the passes ended, every film is up to date in the index or pending on one of the streams
(`History.sound`): a worker moves its cursor on only over rows whose films it has settled, and what
is stamped anew is ahead of every cursor. A pass over a catalog that is not edited meanwhile leaves
nothing pending.
-/

namespace CatalogSync

/-- The stream that films are followed on by a selection. -/
def StreamSettings.filmStream (s : StreamSettings) : Selection → String
  | .related .person => s.filmWorkPerson
  | .related .genre => s.filmWorkGenre
  | .related .mark => s.filmWorkMark
  | _ => s.filmWork

/-- The worker over films by a selection. -/
def StreamSettings.filmWorker (s : StreamSettings) (selection : Selection) : WorkerSpec :=
  ⟨s.filmStream selection, selection, selection.isRelated⟩

theorem StreamSettings.filmStream_injective {s : StreamSettings} (hnames : s.names.Nodup)
    {selection other : Selection} (hmem : selection ∈ filmSelections)
    (hother : other ∈ filmSelections) (h : s.filmStream selection = s.filmStream other) :
    selection = other := by
  simp only [names, List.nodup_cons, List.mem_cons, not_or] at hnames
  simp only [filmSelections, List.mem_cons, List.not_mem_nil, or_false] at hmem hother
  rcases hmem with rfl | rfl | rfl | rfl <;> rcases hother with rfl | rfl | rfl | rfl <;>
    simp_all [filmStream]

/-- Where the streams of films stand. -/
def StreamSettings.filmPositions {ω : Type} (s : StreamSettings) (b : Book ω) :
    Selection → Cursor :=
  fun selection => b.position (s.filmStream selection)

variable {ω : Type} {v : View ω} {s : StreamSettings} {b b' : Book ω}

theorem StreamSettings.filmPositions_congr (h : b'.cursors = b.cursors) :
    s.filmPositions b' = s.filmPositions b := by
  funext selection
  rw [filmPositions, Book.position, h]
  rfl

/-- Every film is up to date in the index or pending on a stream, and no stream has passed what is
stamped next. -/
structure Sound (v : View ω) (s : StreamSettings) (b : Book ω) : Prop where
  behind : ∀ selection ∈ filmSelections,
    (v.catalog b.world).Behind (s.filmPositions b selection)
  settled : ∀ film, (v.catalog b.world).Settled (v.index b.world) filmSelections
    (Catalog.Beyond (s.filmPositions b)) film

/-- Before the first pass every film is pending. -/
theorem sound_of_initial (hpositions : ∀ stream, b.position stream = .initial)
    (hstamped : (v.catalog b.world).WellStamped) : Sound v s b where
  behind selection _ := by
    rw [StreamSettings.filmPositions, hpositions]
    exact Catalog.behind_initial _
  settled film hsome := by
    obtain ⟨t, ht⟩ := Option.isSome_iff_exists.1 (Catalog.isSome_stamp?.trans hsome)
    refine .inr (Catalog.pending_root (by simp [filmSelections]) ht ?_)
    rw [Catalog.Beyond, StreamSettings.filmPositions, hpositions]
    exact Cursor.initial_lt_ofRow (hstamped _ _ _ ht) film

namespace Sound

/-- What keeps films settled keeps the invariant, as long as no stream moves. -/
theorem follows (h : Sound v s b) (hfollows : v.Follows (v.catalog b.world) b.world b'.world)
    (hpositions : s.filmPositions b' = s.filmPositions b) : Sound v s b' where
  behind selection hmem := by
    rw [hpositions]
    exact (h.behind selection hmem).edited hfollows.edited
  settled film := by
    rw [hpositions]
    exact hfollows.settled _ _ h.behind (h.settled film)

end Sound

/-- The worker for a selection has run from one book to another: no other stream moved, and it has
scanned what was ahead of its own. -/
structure Ran (v : View ω) (s : StreamSettings) (selection : Selection) (b b' : Book ω) : Prop where
  follows : v.Follows (v.catalog b.world) b.world b'.world
  others : ∀ other ∈ filmSelections, other ≠ selection →
    s.filmPositions b' other = s.filmPositions b other
  scanned : ∃ snapshot, (v.catalog b.world).Edited snapshot ∧
    snapshot.Edited (v.catalog b'.world) ∧ snapshot.Behind (s.filmPositions b' selection) ∧
    ∀ r, snapshot.InScan selection (s.filmPositions b selection)
        (Catalog.boundOf (s.filmPositions b) selection) r →
      s.filmPositions b selection < r.cursor →
      (v.catalog b'.world).Settled (v.index b'.world) filmSelections snapshot.Since r.rootId

namespace Ran

variable {selection : Selection} {rest : List Selection}

theorem sound (h : Ran v s selection b b') (hb : Sound v s b) : Sound v s b' := by
  obtain ⟨snapshot, hbefore, hafter, hmoved, hscanned⟩ := h.scanned
  have hbehind : ∀ other ∈ filmSelections, snapshot.Behind (s.filmPositions b' other) := by
    intro other hmem
    by_cases hother : other = selection
    · rwa [hother]
    · rw [h.others other hmem hother]
      exact (hb.behind other hmem).edited hbefore
  refine ⟨fun other hmem => (hbehind other hmem).edited hafter, fun film => ?_⟩
  have hfilm := h.follows.settled _ film hb.behind (hb.settled film)
  exact Catalog.Settled.advance hafter hfilm h.others hbehind hscanned

/-- Where the catalog was not edited, a film that was pending on this stream is pending on a later
one, or up to date. -/
theorem carry (h : Ran v s selection b b')
    (hcatalog : v.catalog b'.world = v.catalog b.world)
    (hrest : ∀ other ∈ rest, other ∈ filmSelections ∧ other ≠ selection)
    (hroot : selection.isRelated → .root .filmWork ∈ rest) {film : String}
    (hfilm : (v.catalog b.world).Settled (v.index b.world) (selection :: rest)
      (Catalog.Beyond (s.filmPositions b)) film) :
    (v.catalog b'.world).Settled (v.index b'.world) rest
      (Catalog.Beyond (s.filmPositions b')) film := by
  obtain ⟨snapshot, hbefore, hafter, -, hscanned⟩ := h.scanned
  rw [hcatalog] at hafter hscanned ⊢
  obtain rfl := hbefore.antisymm hafter
  exact hfilm.carry hroot
    (fun other hmem => h.others other (hrest other hmem).1 (hrest other hmem).2)
    (h.follows.holds hcatalog) hscanned

end Ran

/-- The pipeline over films with the workers that the settings name. -/
def StreamSettings.films (s : StreamSettings) (name : String) (loader : Loader ω) (pageSize : Nat) :
    Pipeline ω FilmRecord :=
  filmPipeline name (CatalogPipelines.movieWorkers s) loader pageSize

/-- The films of the settings are carried by this pipeline. -/
theorem CatalogPipelines.ofSettings_movies {φ : Type} [Growth φ] (settings : Settings)
    (policy : Policy φ) (client : Http.Client ω) (allowance : Nat) :
    (ofSettings settings policy client allowance).movies = settings.streams.films "movies"
      ((indexNamed settings settings.indexes.movies policy).loader client allowance)
      settings.source.batchSize := rfl

section

variable {source : Source ω} {store : Store ω} {loader : Loader ω} {name : String}
  {pageSize allowance : Nat} {selection : Selection}

theorem Ran.of_scanned {w : Worker} {snapshot : Catalog}
    (hsame : ((s.films name loader pageSize).workerOf (s.filmWorker selection) b.cursors).IsSame w)
    (hfollows : v.Follows (v.catalog b.world) b.world b'.world)
    (hbefore : (v.catalog b.world).Edited snapshot) (hscanned : v.Scanned snapshot b'.world w)
    (hbehind : snapshot.Behind (s.filmPositions b' selection))
    (hothers : ∀ other ∈ filmSelections, other ≠ selection →
      s.filmPositions b' other = s.filmPositions b other) : Ran v s selection b b' where
  follows := hfollows
  others := hothers
  scanned := by
    refine ⟨snapshot, hbefore, hscanned.edited, hbehind, fun r hr hlt => hscanned.settled r ?_ ?_⟩
    · rw [hsame.spec, hsame.start, hsame.root]
      exact hr
    · rw [hsame.start]
      exact hlt

/-- A worker over films runs, or fails and loses nothing. -/
theorem ends_runWorker_ran (hsource : source.KeepsContract v) (hloader : loader.KeepsContract v)
    (hstore : store.KeepsContract v) (hnames : s.names.Nodup) (hmem : selection ∈ filmSelections)
    {st : Pipeline.PassState ω} (hst : Sound v s st.book) :
    ((s.films name loader pageSize).runWorker source store (s.filmWorker selection) allowance).Ends
      (fun _ st' => Ran v s selection st.book st'.book) (fun _ st' => Sound v s st'.book) st := by
  have hbehind : (v.catalog st.book.world).Behind
      (st.book.position (s.filmWorker selection).stream) := hst.behind selection hmem
  rw [Pipeline.runWorker, Call.ends_bind]
  refine (ends_drain_scanned hsource hloader hmem hbehind).mono
    (fun w st₁ h => ?_) fun _ st₁ h => ?_
  · obtain ⟨hcursors, hfollows, hsame, snapshot, hbefore, hscanned⟩ := h
    have hstream : w.spec.stream = s.filmStream selection := congrArg WorkerSpec.stream hsame.spec
    have hstart : w.start = st₁.book.position w.spec.stream := by
      rw [hsame.start, hstream, Book.position, hcursors]
      rfl
    have hpositions := StreamSettings.filmPositions_congr (s := s) hcursors
    rw [Pipeline.ends_commit hstart]
    split
    · have hsteady := hstore (st₁.book.cursors.insert w.spec.stream (some w.cursor)) st₁.book.world
      split
      · next world hcommit =>
        rw [hcommit] at hsteady
        refine .of_scanned hsame (hfollows.trans (hsteady.follows hfollows.edited)) hbefore
          (hscanned.steady hsteady) ?_ fun other hother hne => ?_
        all_goals
          rw [StreamSettings.filmPositions, Book.position, CursorMap.position_insert, hstream]
        · rw [if_pos rfl]
          exact hscanned.behind
        · rw [if_neg fun h => hne (StreamSettings.filmStream_injective hnames hother hmem h)]
          exact congrFun hpositions other
      · next world hcommit =>
        rw [hcommit] at hsteady
        exact hst.follows (hfollows.trans (hsteady.follows hfollows.edited)) hpositions
    · refine .of_scanned hsame hfollows hbefore hscanned ?_ fun other _ _ => by rw [hpositions]
      rw [hpositions]
      exact (hst.behind selection hmem).edited hbefore
  · exact hst.follows h.2 (StreamSettings.filmPositions_congr h.1)

/-- The scan of a failed worker is released, which loses nothing either. -/
theorem ends_runGuarded_ran (hsource : source.KeepsContract v) (hloader : loader.KeepsContract v)
    (hstore : store.KeepsContract v) (hnames : s.names.Nodup) (hmem : selection ∈ filmSelections)
    {st : Pipeline.PassState ω} (hst : Sound v s st.book) :
    ((s.films name loader pageSize).runGuarded source store (s.filmWorker selection)
      allowance).Ends (fun _ st' => Ran v s selection st.book st'.book)
      (fun _ st' => Sound v s st'.book) st := by
  rw [Pipeline.ends_runGuarded]
  refine (ends_runWorker_ran hsource hloader hstore hnames hmem hst).mono (fun _ _ hran => hran)
    fun e st' hst' => ?_
  split
  · exact hst'.follows ((hsource.steady .closeScan _).follows .refl)
      (StreamSettings.filmPositions_congr rfl)
  · exact hst'

theorem root_mem_of_suffix {rest : List Selection} (h : selection :: rest <:+ filmSelections)
    (hrelated : selection.isRelated) : .root .filmWork ∈ rest := by
  simp only [filmSelections, List.suffix_cons_iff, List.cons.injEq] at h
  rcases h with ⟨rfl, rfl⟩ | ⟨rfl, rfl⟩ | ⟨rfl, rfl⟩ | ⟨rfl, rfl⟩ | h
  · simp
  · simp
  · simp
  · cases hrelated
  · simp at h

/-- The last workers of a pass run, or fail and lose nothing. If the catalog was not edited, what
was pending on their streams no longer is. -/
theorem ends_runAll_sound (hsource : source.KeepsContract v) (hloader : loader.KeepsContract v)
    (hstore : store.KeepsContract v) (hnames : s.names.Nodup) {selections : List Selection}
    (hsuffix : selections <:+ filmSelections) {st : Pipeline.PassState ω}
    (hst : Sound v s st.book) :
    ((s.films name loader pageSize).runAll source store allowance
      (selections.map s.filmWorker)).Ends
      (fun _ st' => Sound v s st'.book ∧
        (v.catalog st.book.world).Edited (v.catalog st'.book.world) ∧
        (v.catalog st'.book.world = v.catalog st.book.world → ∀ film,
          (v.catalog st.book.world).Settled (v.index st.book.world) selections
            (Catalog.Beyond (s.filmPositions st.book)) film →
          (v.catalog st'.book.world).Settled (v.index st'.book.world) []
            (Catalog.Beyond (s.filmPositions st'.book)) film))
      (fun _ st' => Sound v s st'.book) st := by
  induction selections generalizing st with
  | nil => exact Call.ends_pure.2 ⟨hst, .refl, fun _ _ hfilm => hfilm⟩
  | cons selection rest ih =>
    have hmem := hsuffix.subset List.mem_cons_self
    rw [List.map_cons, Pipeline.runAll, Call.ends_bind]
    refine (ends_runGuarded_ran hsource hloader hstore hnames hmem hst).imp fun _ st₁ hran => ?_
    have hrest := (List.suffix_cons selection rest).trans hsuffix
    refine (ih hrest (hran.sound hst)).imp fun _ st' h => ?_
    obtain ⟨hst', hedited, hcarry⟩ := h
    refine ⟨hst', hran.follows.edited.trans hedited, fun hcatalog film hfilm => ?_⟩
    have hsame : v.catalog st₁.book.world = v.catalog st.book.world :=
      Catalog.Edited.antisymm (hcatalog ▸ hedited) hran.follows.edited
    have hdistinct : (selection :: rest).Nodup := hsuffix.sublist.nodup (by decide)
    refine hcarry (hcatalog.trans hsame.symm) film (hran.carry hsame (fun other hother => ?_)
      (root_mem_of_suffix hsuffix) hfilm)
    refine ⟨hrest.subset hother, ?_⟩
    rintro rfl
    exact (List.nodup_cons.1 hdistinct).1 hother

/-- A pass over films runs, or fails and loses nothing. If the catalog was not edited, nothing is
pending behind it. -/
theorem ends_execute_sound (hsource : source.KeepsContract v) (hloader : loader.KeepsContract v)
    (hstore : store.KeepsContract v) (hnames : s.names.Nodup) (hb : Sound v s b) :
    ((s.films name loader pageSize).execute source store allowance).Ends
      (fun _ b' => Sound v s b' ∧ (v.catalog b'.world = v.catalog b.world → ∀ film,
        (v.catalog b'.world).Settled (v.index b'.world) []
          (Catalog.Beyond (s.filmPositions b')) film))
      (fun _ b' => Sound v s b') b := by
  rw [Pipeline.ends_execute]
  refine (ends_runAll_sound hsource hloader hstore hnames (List.suffix_refl _) hb).imp
    fun _ st h => ?_
  obtain ⟨hst, -, hsettled⟩ := h
  exact ⟨hst, fun hcatalog film => hsettled hcatalog film (hb.settled film)⟩

end

/-- What may have happened before a pass over films. -/
inductive History (v : View ω) (s : StreamSettings) (source : Source ω) (store : Store ω)
    (p : Pipeline ω FilmRecord) : Book ω → Prop where
  /-- No stream has moved, and the index holds anything. -/
  | start {b : Book ω} (hpositions : ∀ stream, b.position stream = .initial)
      (hstamped : (v.catalog b.world).WellStamped) : History v s source store p b
  /-- The catalog is edited. -/
  | edits {b : Book ω} {world : ω} (h : History v s source store p b)
      (hsteady : v.Steady b.world world) : History v s source store p { b with world }
  /-- A pass ends in whatever way. -/
  | pass {b : Book ω} (h : History v s source store p b) (allowance : Nat) :
    History v s source store p (p.execute source store allowance b).2

section

variable {source : Source ω} {store : Store ω} {loader : Loader ω} {name : String}
  {pageSize : Nat}

/-- Whatever happened, every film is up to date in the index or pending on a stream. -/
theorem History.sound (hsource : source.KeepsContract v) (hloader : loader.KeepsContract v)
    (hstore : store.KeepsContract v) (hnames : s.names.Nodup)
    (h : History v s source store (s.films name loader pageSize) b) : Sound v s b := by
  induction h with
  | start hpositions hstamped => exact sound_of_initial hpositions hstamped
  | edits _ hsteady ih =>
    exact ih.follows (hsteady.follows .refl) (StreamSettings.filmPositions_congr rfl)
  | @pass b _ allowance ih =>
    exact ((ends_execute_sound hsource hloader hstore hnames ih).imp fun _ _ h => h.1).left

/-- After a pass that returns a report and during which the catalog was not edited, the index holds
the document of every film's current aggregate. -/
theorem History.holds_of_pass (hsource : source.KeepsContract v) (hloader : loader.KeepsContract v)
    (hstore : store.KeepsContract v) (hnames : s.names.Nodup)
    (h : History v s source store (s.films name loader pageSize) b) {allowance : Nat}
    {report : PassReport}
    (hpass : (s.films name loader pageSize).execute source store allowance b = (.ok report, b'))
    (hcatalog : v.catalog b'.world = v.catalog b.world) {film : String}
    (hfilm : ((v.catalog b'.world).films.get? film).isSome) :
    (v.catalog b'.world).Holds (v.index b'.world) film := by
  have hb := h.sound hsource hloader hstore hnames
  obtain ⟨-, hsettled⟩ := (ends_execute_sound hsource hloader hstore hnames hb).of_ok hpass
  rcases hsettled hcatalog film hfilm with hholds | ⟨_, hnone, -⟩
  · exact hholds
  · cases hnone

end

namespace Replica

/-- A film with an actor. -/
def oneFilm : Catalog where
  films := .ofList [("f", ⟨"Up", none, none, none, "movie", .first⟩)]
  named
    | .person => .ofList [("p", ⟨"Ed", .first⟩)]
    | _ => ∅
  links
    | .person => [⟨"p", "f", "actor"⟩]
    | _ => []

/-- The actor is renamed a second later. -/
def twoNames : Nat → Catalog
  | 0 => oneFilm
  | _ => oneFilm.putNamed .person "p"
    ⟨"Edward", { Timestamp.first with second := 1, second_lt := by decide, nano_lt := by decide }⟩
    [⟨"p", "f", "actor"⟩]

theorem stamp?_oneFilm {entity : Entity} {id : String} {t : Timestamp}
    (h : oneFilm.stamp? entity id = some t) : t = .first := by
  cases entity <;> simp [Catalog.stamp?, oneFilm, NameMap.ofList] at h
  · exact h.2.symm
  · exact h.2.symm
  all_goals
    obtain ⟨_, hnone, -⟩ := h
    cases hnone

theorem edited_twoNames (n : Nat) : (twoNames n).Edited (twoNames (n + 1)) := by
  cases n with
  | zero =>
    refine .single
      (.named (by decide) ⟨by decide, fun entity id t ht => ?_⟩ (by decide) (by decide))
    rw [stamp?_oneFilm ht]
    decide
  | succ n => exact .refl

/-- The actor is renamed while the first pass runs, after the film was read. -/
def cold : Book Replica :=
  ⟨∅, ⟨0, List.replicate 16 0 ++ [1], .closed, fun _ => none⟩⟩

/-- The pipeline over films in a replica, one row at a time. -/
def films : Pipeline Replica FilmRecord := StreamSettings.films {} "movies" (loader 10) 1

/-- The book after the first pass. -/
def warm : Book Replica := (films.execute (source twoNames) store 100 cold).2

/-- The book after the second pass. -/
def current : Book Replica := (films.execute (source twoNames) store 100 warm).2

/-- The second pass brings the new name to the index. -/
theorem holds_current :
    (view twoNames).catalog current.world = twoNames 1 ∧
      (twoNames 1).Holds ((view twoNames).index current.world) "f" := by
  have hpass : films.execute (source twoNames) store 100 warm = (.ok ⟨1, 1, 1, 1⟩, current) := by
    have hreport : (films.execute (source twoNames) store 100 warm).1 = .ok ⟨1, 1, 1, 1⟩ := by
      decide +kernel
    rw [← hreport, current]
  have hwarm : warm.world.moment = 1 := by decide +kernel
  have hcurrent : current.world.moment = 1 := by decide +kernel
  have hhistory : History (view twoNames) {} (source twoNames) store films warm := by
    refine .pass (.start (fun _ => rfl) fun entity id t ht => ?_) 100
    rw [stamp?_oneFilm ht]
  have hcatalog : (view twoNames).catalog current.world = twoNames 1 := by
    simp only [view, hcurrent]
  refine ⟨hcatalog, ?_⟩
  rw [← hcatalog]
  refine hhistory.holds_of_pass (keepsContract_source edited_twoNames)
    (keepsContract_loader edited_twoNames 10) (keepsContract_store edited_twoNames) (by decide)
    hpass ?_ ?_
  · simp only [view, hwarm, hcurrent]
  · rw [hcatalog]
    decide

end Replica

end CatalogSync
