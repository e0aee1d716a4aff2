import CatalogSync.Proofs.Pass.Drain
import CatalogSync.Proofs.Pass.Forward
import CatalogSync.Proofs.Sync.AtRest
import CatalogSync.Proofs.Sync.NoLostUpdate

/-!
# A catalog that is not edited becomes quiet

The first pass that ends well leaves the stream of films caught up. From then on the bound of a
scan hides nothing, and the second such pass leaves the other streams caught up as well. A stream
that is caught up stays where it stands, so every pass behind these two is idle.
-/

namespace CatalogSync

section

variable {ω : Type} {v : View ω} {source : Source ω} {c : Catalog}

/-- What happens elsewhere leaves a worker in its scan. -/
theorem ScansStill.elsewhere {w : Worker} {seen : List ChangeRow} {x : Extraction ω}
    (hx : ScansStill v c w seen x) {world : ω} (hscan : v.scan world = v.scan x.world) :
    ScansStill v c w seen { x with world } where
  same := hx.same
  counted := hx.counted
  stage := by
    rw [hscan]
    exact hx.stage
  start_le := hx.start_le
  seen_le := hx.seen_le
  reached := hx.reached
  probed := hx.probed

/-- Writing a batch leaves the scan that is open alone. -/
def Loader.SparesScan (loader : Loader ω) (v : View ω) : Prop :=
  ∀ batch world, v.scan (loader.write batch world).2 = v.scan world

section

variable {loader : Loader ω} {name : String} {workers : List WorkerSpec} {pageSize allowance : Nat}

/-- A worker that is drained has caught up with its stream, if the bound of its scan hid nothing. -/
theorem ends_drain_caughtUp (hsource : source.KeepsContract v)
    (hstill : ∀ world, v.catalog world = c) (hloader : loader.SparesScan v) {spec : WorkerSpec}
    (hprobes : spec.probes = spec.selection.isRelated) (st : Pipeline.PassState ω) :
    ((filmPipeline name workers loader pageSize).drain source spec allowance).Ends
      (fun w st' => st'.book.cursors = st.book.cursors ∧
        w.start = st.book.position spec.stream ∧ w.start ≤ w.cursor ∧
        (c.Unhidden ((filmPipeline name workers loader pageSize).workerOf spec
          st.book.cursors).root → c.CaughtUp spec.selection w.cursor))
      (fun _ st' => st'.book.cursors = st.book.cursors) st := by
  let w := (filmPipeline name workers loader pageSize).workerOf spec st.book.cursors
  have hsize : 0 < w.pageSize := Nat.lt_of_lt_of_le Nat.one_pos (Nat.le_max_right ..)
  have hw : ScansStill v c w [] ⟨w, st.book.world⟩ := Pipeline.scansStill_workerOf ..
  refine (Pipeline.ends_drain_kept (J := fun x => ∃ seen, ScansStill v c w seen x)
    (fun x page x' hx hturn => ?_) (fun batch x result world hx hwrite => ?_) ⟨[], hw⟩).imp
      fun w' st' h => ?_
  · obtain ⟨seen, hx⟩ := hx
    obtain ⟨rows, hx'⟩ := hx.turn hsource hstill rfl hsize hturn
    exact ⟨_, hx'⟩
  · obtain ⟨seen, hx⟩ := hx
    have hscan := hloader batch x.world
    change loader.write batch x.world = _ at hwrite
    rw [hwrite] at hscan
    exact ⟨seen, hx.elsewhere hscan⟩
  obtain ⟨hcursors, ⟨reason, hdone⟩, seen, hw'⟩ := h
  have hstart : w'.start = w.start := hw'.same.start
  refine ⟨hcursors, hstart, ?_, fun hunhidden => ?_⟩
  · rw [hstart]
    exact hw'.start_le
  · exact hw'.caughtUp hdone hunhidden hprobes

end

variable {s : StreamSettings} {b b' b'' : Book ω} {loader : Loader ω} {store : Store ω}
  {name : String} {pageSize allowance : Nat} {selection : Selection}

/-- The stream of a selection is caught up in the book. -/
def Book.CaughtUp (b : Book ω) (c : Catalog) (s : StreamSettings) (selection : Selection) : Prop :=
  c.CaughtUp selection (s.filmPositions b selection)

/-- Streams that are caught up stay where they stand, once the stream of films is. -/
def Spares (c : Catalog) (s : StreamSettings) (b b' : Book ω) : Prop :=
  b.CaughtUp c s (.root .filmWork) → ∀ selection ∈ filmSelections, b.CaughtUp c s selection →
    s.filmPositions b' selection = s.filmPositions b selection

theorem root_mem_filmSelections : .root .filmWork ∈ filmSelections := by simp [filmSelections]

namespace Spares

theorem of_cursors (h : b'.cursors = b.cursors) : Spares c s b b' :=
  fun _ _ _ _ => congrFun (StreamSettings.filmPositions_congr h) _

theorem keeps (h : Spares c s b b') (hroot : b.CaughtUp c s (.root .filmWork))
    (hmem : selection ∈ filmSelections) (hselection : b.CaughtUp c s selection) :
    b'.CaughtUp c s selection := by
  rw [Book.CaughtUp, h hroot selection hmem hselection]
  exact hselection

theorem trans (h : Spares c s b b') (h' : Spares c s b' b'') : Spares c s b b'' := by
  intro hroot selection hmem hselection
  have hroot' := h.keeps hroot root_mem_filmSelections hroot
  have hselection' := h.keeps hroot hmem hselection
  rw [h' hroot' selection hmem hselection', h hroot selection hmem hselection]

end Spares

/-- The book after some passes, each of which ended in whatever way. -/
abbrev Pipeline.Passes {ρ : Type} (p : Pipeline ω ρ) (source : Source ω) (store : Store ω) :
    Book ω → Book ω → Prop :=
  Relation.ReflTransGen fun b b' => ∃ allowance, (p.execute source store allowance b).2 = b'

/-- Once the stream of films is caught up, the bound of no scan hides anything. -/
theorem Book.CaughtUp.unhidden (h : b.CaughtUp c s (.root .filmWork)) (selection : Selection) :
    c.Unhidden (Catalog.boundOf (s.filmPositions b) selection) := by
  unfold Catalog.boundOf
  split
  · exact Catalog.CaughtUp.unhidden h
  · exact c.unhidden_none

section

variable (hsource : source.KeepsContract v) (hstill : ∀ world, v.catalog world = c)
  (hloader : loader.SparesScan v) (hnames : s.names.Nodup)

include hsource hstill hloader hnames

/-- A worker moves no stream but its own, and catches up with it if it ends well and the bound of
its scan hides nothing. -/
theorem ends_runGuarded_caughtUp (hmem : selection ∈ filmSelections) (st : Pipeline.PassState ω) :
    ((s.films name loader pageSize).runGuarded source store (s.filmWorker selection)
      allowance).Ends
      (fun _ st' => (∀ other ∈ filmSelections, other ≠ selection →
          s.filmPositions st'.book other = s.filmPositions st.book other) ∧
        (c.Unhidden (Catalog.boundOf (s.filmPositions st.book) selection) →
          st'.book.CaughtUp c s selection))
      (fun _ st' => st'.book.cursors = st.book.cursors) st := by
  rw [Pipeline.ends_runGuarded, Pipeline.ends_runWorker]
  refine (ends_drain_caughtUp hsource hstill hloader rfl st).mono (fun w st' h => ?_)
    fun e st' h => ?_
  · obtain ⟨hcursors, hstart, hle, hcaught⟩ := h
    split
    · split
      · next world hcommit =>
        constructor
        · intro other hother hne
          have hother : s.filmStream other ≠ s.filmStream selection := fun h =>
            hne (StreamSettings.filmStream_injective hnames hother hmem h)
          exact (CursorMap.position_insert ..).trans (if_neg hother)
        · intro hunhidden
          have hstream : s.filmStream selection = (s.filmWorker selection).stream := rfl
          rw [Book.CaughtUp, StreamSettings.filmPositions, Book.position,
            CursorMap.position_insert, if_pos hstream]
          exact hcaught hunhidden
      · rfl
    · next hstood =>
      have hpositions := StreamSettings.filmPositions_congr (s := s) hcursors
      refine ⟨fun other _ _ => congrFun hpositions other, fun hunhidden => ?_⟩
      have hcursor : w.cursor = s.filmPositions st.book selection :=
        (le_antisymm hle (not_lt.1 hstood)).symm.trans hstart
      rw [Book.CaughtUp, hpositions, ← hcursor]
      exact hcaught hunhidden
  · split
    · exact h
    · exact h

omit hloader hnames in
/-- A worker over a stream that is caught up finds nothing, once the stream of films is. -/
theorem ends_runGuarded_idles {st : Pipeline.PassState ω}
    (hroot : st.book.CaughtUp c s (.root .filmWork)) (hselection : st.book.CaughtUp c s selection) :
    ((s.films name loader pageSize).runGuarded source store (s.filmWorker selection)
      allowance).Ends (fun _ st' => Pipeline.Idles source st st')
      (fun _ st' => Pipeline.Idles source st st') st :=
  Pipeline.ends_runGuarded_rests hsource hstill hselection (hroot.unhidden selection)

/-- A worker leaves streams that are caught up where they stand. -/
theorem ends_runGuarded_spares (hmem : selection ∈ filmSelections) (st : Pipeline.PassState ω) :
    ((s.films name loader pageSize).runGuarded source store (s.filmWorker selection)
      allowance).Ends
      (fun _ st' => Spares c s st.book st'.book ∧
        (c.Unhidden (Catalog.boundOf (s.filmPositions st.book) selection) →
          st'.book.CaughtUp c s selection))
      (fun _ st' => Spares c s st.book st'.book) st := by
  by_cases hcaught : st.book.CaughtUp c s (.root .filmWork) ∧ st.book.CaughtUp c s selection
  · refine ((ends_runGuarded_caughtUp hsource hstill hloader hnames hmem st).and
      (ends_runGuarded_idles hsource hstill hcaught.1 hcaught.2)).mono (fun _ st' h => ?_)
      fun _ st' h => .of_cursors h.1
    exact ⟨.of_cursors h.2.cursors, h.1.2⟩
  · refine (ends_runGuarded_caughtUp hsource hstill hloader hnames hmem st).mono
      (fun _ st' h => ⟨fun hroot other hother hcaughtOther => ?_, h.2⟩) fun _ st' h => .of_cursors h
    refine h.1 other hother ?_
    rintro rfl
    exact hcaught ⟨hroot, hcaughtOther⟩

/-- Workers one after the other: streams that are caught up stay where they stand, and if all end
well, the streams of these workers are caught up, or at least that of films. -/
theorem ends_runAll_spares {selections : List Selection}
    (hmem : ∀ selection ∈ selections, selection ∈ filmSelections) (st : Pipeline.PassState ω) :
    ((s.films name loader pageSize).runAll source store allowance
      (selections.map s.filmWorker)).Ends
      (fun _ st' => Spares c s st.book st'.book ∧
        (.root .filmWork ∈ selections → st'.book.CaughtUp c s (.root .filmWork)) ∧
        (st.book.CaughtUp c s (.root .filmWork) →
          ∀ selection ∈ selections, st'.book.CaughtUp c s selection))
      (fun _ st' => Spares c s st.book st'.book) st := by
  induction selections generalizing st with
  | nil => exact Call.ends_pure.2 ⟨.of_cursors rfl, by simp, by simp⟩
  | cons selection rest ih =>
    have hselection := hmem selection List.mem_cons_self
    rw [List.map_cons, Pipeline.runAll, Call.ends_bind]
    refine (ends_runGuarded_spares hsource hstill hloader hnames hselection st).imp
      fun _ st₁ h => ?_
    obtain ⟨hspares, hcaught⟩ := h
    refine (ih (fun other hother => hmem other (List.mem_cons_of_mem _ hother)) st₁).mono
      (fun _ st' h => ?_) fun _ st' h => hspares.trans h
    obtain ⟨hspares', hroot', hothers⟩ := h
    refine ⟨hspares.trans hspares', fun hroot => ?_, fun hroot other hother => ?_⟩
    · rcases List.mem_cons.1 hroot with rfl | hroot
      · have hfilms := hcaught c.unhidden_none
        exact hspares'.keeps hfilms root_mem_filmSelections hfilms
      · exact hroot' hroot
    · have hroot₁ := hspares.keeps hroot root_mem_filmSelections hroot
      rcases List.mem_cons.1 hother with rfl | hother
      · exact hspares'.keeps hroot₁ hselection (hcaught (hroot.unhidden other))
      · exact hothers hroot₁ other hother

/-- A pass that ends well leaves the stream of films caught up, and every stream if that of films
was before. -/
theorem ends_execute_spares (b : Book ω) :
    ((s.films name loader pageSize).execute source store allowance).Ends
      (fun _ b' => Spares c s b b' ∧ b'.CaughtUp c s (.root .filmWork) ∧
        (b.CaughtUp c s (.root .filmWork) → ∀ selection ∈ filmSelections,
          b'.CaughtUp c s selection))
      (fun _ b' => Spares c s b b') b := by
  rw [Pipeline.ends_execute]
  refine (ends_runAll_spares hsource hstill hloader hnames (fun _ => id) ⟨b, .zero⟩).imp
    fun _ st h => ?_
  exact ⟨h.1, h.2.1 root_mem_filmSelections, h.2.2⟩

/-- So do passes that end in whatever way. -/
theorem spares_of_passes (hpasses : (s.films name loader pageSize).Passes source store b b') :
    Spares c s b b' := by
  induction hpasses with
  | refl => exact .of_cursors rfl
  | tail _ hpass ih =>
    obtain ⟨allowance, rfl⟩ := hpass
    refine ih.trans ?_
    exact ((ends_execute_spares hsource hstill hloader hnames _).imp fun _ _ h => h.1).left

end

section

variable (hsource : source.KeepsContract v) (hstill : ∀ world, v.catalog world = c)

include hsource hstill

/-- Once every stream is caught up, a pass does nothing but look through the scans. -/
theorem ends_runAll_idles {selections : List Selection}
    (hmem : ∀ selection ∈ selections, selection ∈ filmSelections) {st : Pipeline.PassState ω}
    (hst : ∀ selection ∈ filmSelections, st.book.CaughtUp c s selection) :
    ((s.films name loader pageSize).runAll source store allowance
      (selections.map s.filmWorker)).Ends
      (fun _ st' => Pipeline.Idles source st st') (fun _ st' => Pipeline.Idles source st st')
      st := by
  induction selections generalizing st with
  | nil => exact Call.ends_pure.2 (.refl source st)
  | cons selection rest ih =>
    have hselection := hst selection (hmem selection List.mem_cons_self)
    rw [List.map_cons, Pipeline.runAll, Call.ends_bind]
    refine (ends_runGuarded_idles hsource hstill (hst _ root_mem_filmSelections) hselection).imp
      fun _ st₁ h => ?_
    have hst₁ : ∀ selection ∈ filmSelections, st₁.book.CaughtUp c s selection := by
      intro other hother
      rw [Book.CaughtUp, StreamSettings.filmPositions_congr h.cursors]
      exact hst other hother
    exact (ih (fun other hother => hmem other (List.mem_cons_of_mem _ hother)) hst₁).mono
      (fun _ _ h' => h.trans h') fun _ _ h' => h.trans h'

theorem ends_execute_idles
    (hb : ∀ selection ∈ filmSelections, b.CaughtUp c s selection) :
    ((s.films name loader pageSize).execute source store allowance).Ends
      (fun report b' => report = .zero ∧ b'.cursors = b.cursors ∧
        source.Asks SourceCall.Scans b.world b'.world)
      (fun _ b' => b'.cursors = b.cursors ∧ source.Asks SourceCall.Scans b.world b'.world) b := by
  let start : Pipeline.PassState ω := ⟨b, .zero⟩
  have hstart : ∀ selection ∈ filmSelections, start.book.CaughtUp c s selection := hb
  rw [Pipeline.ends_execute]
  exact (ends_runAll_idles hsource hstill (fun _ => id) hstart).mono
    (fun _ st h => ⟨h.report, h.cursors, h.asks⟩) fun _ st h => ⟨h.cursors, h.asks⟩

/-- Passes leave the cursors alone once every stream is caught up. -/
theorem cursors_eq_of_passes (hb : ∀ selection ∈ filmSelections, b.CaughtUp c s selection)
    (hpasses : (s.films name loader pageSize).Passes source store b b') :
    b'.cursors = b.cursors := by
  induction hpasses with
  | refl => rfl
  | @tail b' _ _ hpass ih =>
    obtain ⟨allowance, rfl⟩ := hpass
    have hb' : ∀ selection ∈ filmSelections, b'.CaughtUp c s selection := by
      intro selection hmem
      rw [Book.CaughtUp, StreamSettings.filmPositions_congr ih]
      exact hb selection hmem
    have hidle : ((s.films name loader pageSize).execute source store allowance).Ends
        (fun _ b'' => b''.cursors = b'.cursors) (fun _ b'' => b''.cursors = b'.cursors) b' :=
      (ends_execute_idles hsource hstill hb').mono (fun _ _ h => h.2.1) fun _ _ h => h.1
    exact hidle.left.trans ih

end

/-- The view of a world that also keeps a record. -/
def View.logged (v : View ω) : View (Logged ω) :=
  ⟨fun t => v.catalog t.world, fun t => v.scan t.world, fun t => v.index t.world⟩

/-- A recorded source keeps the contract of the source. -/
theorem Source.KeepsContract.logged (h : source.KeepsContract v) :
    source.logged.KeepsContract v.logged where
  steady call t := by
    have hsteady := h.steady call t.world
    exact ⟨hsteady.edited, hsteady.index⟩
  openScan selection start root t t' hask := by
    rcases h.openScan _ _ _ _ _ (Source.logged_ask hask).1 with hscan |
      ⟨snapshot, rows, hreads, hscan⟩
    · exact .inl hscan
    · exact .inr ⟨snapshot, rows, ⟨hreads.before, hreads.after, hreads.isScan⟩, hscan⟩
  fetch count t page t' hask := by
    have hfetch := h.fetch _ _ _ _ (Source.logged_ask hask).1
    have hview : v.logged.scan t = v.scan t.world := rfl
    rw [hview]
    cases hscan : v.scan t.world with
    | closed => trivial
    | opened selection start root =>
      rw [hscan] at hfetch
      obtain ⟨snapshot, rows, hreads, hpage⟩ := hfetch
      exact ⟨snapshot, rows, ⟨hreads.before, hreads.after, hreads.isScan⟩, hpage⟩
    | reading snapshot rest =>
      rw [hscan] at hfetch
      exact hfetch
  probe entity t greatest t' hask := h.probe _ _ _ _ (Source.logged_ask hask).1
  enrich ids t docs t' hask := h.enrich _ _ _ _ (Source.logged_ask hask).1

/-- A question about a scan is no answer with records. -/
theorem records_of_scans {ρ : Type} (decode : Decoder ρ) {call : SourceCall} (h : call.Scans)
    (answer : Outcome SourceError call.Answer) :
    PassEvent.records decode (.asked call answer) = [] := by
  cases call with
  | enrich aggregate ids => exact absurd h id
  | _ => rfl

section

variable {b₁ b₂ b₃ b₄ : Book ω} {r r' : PassReport} {first second : Nat}

/-- Over a catalog that is not edited, every pass behind two that ended well is idle, whatever was
in the cursors, and whatever other passes came between: it asks for no aggregate, extracts no
record, writes no batch and commits nothing, and the cursors are what the second of the two left. -/
theorem films_become_quiet (hsource : source.KeepsContract v)
    (hstill : ∀ world, v.catalog world = c) (hloader : loader.SparesScan v) (hnames : s.names.Nodup)
    (hfirst : (s.films name loader pageSize).execute source store first b = (.ok r, b₁))
    (hbetween : (s.films name loader pageSize).Passes source store b₁ b₂)
    (hsecond : (s.films name loader pageSize).execute source store second b₂ = (.ok r', b₃))
    (hbehind : (s.films name loader pageSize).Passes source store b₃ b₄) (allowance : Nat) :
    ∃ outcome after events,
      (s.films name loader pageSize).execute source store allowance b₄ = (outcome, after) ∧
      (s.films name loader pageSize).logged.execute source.logged store.logged allowance
          ⟨b₄.cursors, ⟨b₄.world, []⟩⟩ = (outcome, ⟨after.cursors, ⟨after.world, events⟩⟩) ∧
      (∀ event ∈ events, ∃ call answer, call.Scans ∧ event = .asked call answer) ∧
      yielded FilmRecord.decode events = [] ∧ batches events = [] ∧ Uncommitted events ∧
      after.cursors = b₃.cursors ∧ ∀ report, outcome = .ok report → report = .zero := by
  have hroot₁ := ((ends_execute_spares hsource hstill hloader hnames b).of_ok hfirst).2.1
  have hspares := spares_of_passes hsource hstill hloader hnames hbetween
  have hroot₂ := hspares.keeps hroot₁ root_mem_filmSelections hroot₁
  have hlevel := ((ends_execute_spares hsource hstill hloader hnames b₂).of_ok hsecond).2.2 hroot₂
  have hcursors₄ := cursors_eq_of_passes hsource hstill hlevel hbehind
  let recorded : Book (Logged ω) := ⟨b₄.cursors, ⟨b₄.world, []⟩⟩
  have hlevel₄ : ∀ selection ∈ filmSelections, recorded.CaughtUp c s selection := by
    intro selection hmem
    have hposition : s.filmPositions recorded selection = s.filmPositions b₃ selection :=
      congrArg (CursorMap.position · (s.filmStream selection)) hcursors₄
    rw [Book.CaughtUp, hposition]
    exact hlevel selection hmem
  have hplain := (s.films name loader pageSize).logged_execute source store allowance recorded
  have hidle : ((s.films name loader pageSize).logged.execute source.logged store.logged
      allowance).Ends
      (fun report b' => report = .zero ∧ b'.cursors = recorded.cursors ∧
        source.logged.Asks SourceCall.Scans recorded.world b'.world)
      (fun _ b' => b'.cursors = recorded.cursors ∧
        source.logged.Asks SourceCall.Scans recorded.world b'.world) recorded :=
    ends_execute_idles hsource.logged (fun t => hstill t.world) hlevel₄
  rcases hrun : (s.films name loader pageSize).logged.execute source.logged store.logged allowance
    recorded with ⟨outcome, ⟨cursors, ⟨world, events⟩⟩⟩
  rw [hrun] at hplain
  have hleft := (hidle.imp fun _ _ h => h.2).left
  rw [hrun] at hleft
  obtain ⟨hcursors, hasks⟩ := hleft
  obtain ⟨more, hevents, hasked⟩ := hasks.events
  obtain rfl : events = more := hevents
  have hquiet : Uncommitted events ∧ batches events = [] := by
    refine Pipeline.of_asked fun event hevent => ?_
    obtain ⟨call, answer, -, rfl⟩ := hasked event hevent
    trivial
  refine ⟨outcome, ⟨cursors, world⟩, events, hplain, rfl, hasked, ?_, hquiet.2, hquiet.1, ?_, ?_⟩
  · refine List.flatMap_eq_nil_iff.2 fun event hevent => ?_
    obtain ⟨call, answer, hscans, rfl⟩ := hasked event hevent
    exact records_of_scans FilmRecord.decode hscans answer
  · exact hcursors.trans hcursors₄
  · rintro report rfl
    exact (hidle.of_ok hrun).1

end

end

namespace Replica

/-- So many seconds into the first day. -/
def early (seconds : Nat) : Timestamp :=
  (Timestamp.of? Timestamp.first.date seconds 0).getD .first

/-- Two films of one actor each. The actors were changed last, and at the same time. -/
def twoActors : Catalog where
  films := .ofList [("f", ⟨"Up", none, none, none, "movie", .first⟩),
    ("g", ⟨"Coco", none, none, none, "movie", early 1⟩)]
  named
    | .person => .ofList [("p", ⟨"Ed", early 2⟩), ("q", ⟨"Gael", early 2⟩)]
    | _ => ∅
  links
    | .person => [⟨"p", "f", "actor"⟩, ⟨"q", "g", "actor"⟩]
    | _ => []

/-- The two films before the first pass. -/
def unread : Book Replica := ⟨∅, ⟨0, [], .closed, fun _ => none⟩⟩

/-- The two films after a pass. -/
def passed (b : Book Replica) : Book Replica :=
  (films.execute (source fun _ => twoActors) store 100 b).2

/-- The first pass does not see the second actor, whose film comes behind the bound. The second pass
does, and the third has nothing to do. -/
theorem third_pass_is_quiet :
    films.execute (source fun _ => twoActors) store 100 unread = (.ok ⟨3, 3, 2, 2⟩, passed unread) ∧
      films.execute (source fun _ => twoActors) store 100 (passed unread) =
        (.ok ⟨1, 1, 1, 1⟩, passed (passed unread)) ∧
      ∃ after events, films.execute (source fun _ => twoActors) store 100 (passed (passed unread)) =
          (.ok .zero, after) ∧
        yielded FilmRecord.decode events = [] ∧ batches events = [] ∧ Uncommitted events ∧
        after.cursors = (passed (passed unread)).cursors := by
  have hpass {b : Book Replica} {report : PassReport}
      (hreport : (films.execute (source fun _ => twoActors) store 100 b).1 = .ok report) :
      films.execute (source fun _ => twoActors) store 100 b = (.ok report, passed b) := by
    rw [← hreport, passed]
  have hfirst : (films.execute (source fun _ => twoActors) store 100 unread).1 =
      .ok ⟨3, 3, 2, 2⟩ := by decide +kernel
  have hsecond : (films.execute (source fun _ => twoActors) store 100 (passed unread)).1 =
      .ok ⟨1, 1, 1, 1⟩ := by decide +kernel
  have hthird : (films.execute (source fun _ => twoActors) store 100 (passed (passed unread))).1 =
      .ok .zero := by decide +kernel
  obtain ⟨outcome, after, events, hexecute, -, -, hyielded, hbatches, huncommitted, hcursors, -⟩ :=
    films_become_quiet (keepsContract_source fun _ => .refl) (fun _ => rfl) (fun _ _ => rfl)
      (by decide) (hpass hfirst) .refl (hpass hsecond) .refl 100
  obtain ⟨-, rfl⟩ := Prod.mk.inj ((hpass hthird).symm.trans hexecute)
  exact ⟨hpass hfirst, hpass hsecond, _, events, hpass hthird, hyielded, hbatches, huncommitted,
    hcursors⟩

end Replica

end CatalogSync
