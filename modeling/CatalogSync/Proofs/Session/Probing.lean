import CatalogSync.Proofs.Catalog.Edits
import CatalogSync.Proofs.Extract.Steps
import CatalogSync.Proofs.Session.Server
import Mathlib.Data.List.Infix

/-!
# Probing where the scan reads

While a scan is open, the greatest row of a table is to be read in the transaction in which its
cursor is declared, so that a worker without rows moves up to no more than its scan could have seen.
The source looks at the scan before it looks at its connection. If it finds the connection closed,
it has already made up its mind to probe, and the new connection reads the tables as they are: the
worker may then pass rows that its scan has never seen. In every other case the probe is sent where
it should be.
-/

namespace CatalogSync

open Transcript

variable {φ ω ρ : Type} [Growth φ]

/-- A scan that is called empty had no rows. -/
theorem Worker.rowsSeen_of_reason (w : Worker) (h : w.reason = .empty) : w.rowsSeen = 0 := by
  unfold reason at h
  split at h
  · assumption
  · split at h <;> cases h

namespace Extraction

/-- A worker over the source that has not come to an end. -/
structure Walks (past : Transcript ω) (ties : ω → ω → Prop) (w : Worker)
    (x : Extraction (Session (Transcribed ω))) : Prop where
  same : w.IsSame x.worker
  tied : x.world.Tied past ties (openScan? x.world.world.lines)
  unmoved : x.worker.rowsSeen = 0 → x.worker.cursor = w.start
  unfinished : ∀ reason, x.worker.phase ≠ .finished reason
  isOpen : x.worker.phase = .scanning → openScan? x.world.world.lines ≠ none

/-- If the worker moved, it was to the greatest row that a probe told with its scan still open. -/
def MovesByProbe (r : RelationalSource φ) (db : Database ω) (allowance : Nat)
    (past : Transcript ω) (ties : ω → ω → Prop) (w : Worker)
    (x : Extraction (Session (Transcribed ω))) : Prop :=
  x.worker.HasAdvanced → ∃ s t : Session (Transcribed ω), past <:+ s.world.lines ∧
    t.world.lines <:+ x.world.world.lines ∧ s.client.scan ≠ none ∧
    (r.transcribed db allowance).ask (.probe w.spec.selection.entity) s =
      (.ok (some x.worker.cursor), t) ∧
    RelationalSource.ReadsGreatest db ties w.spec.selection.entity x.worker.cursor s t

variable {r : RelationalSource φ} {db : Database ω} {allowance : Nat} {past : Transcript ω}
  {ties : ω → ω → Prop} {w : Worker} {x : Extraction (Session (Transcribed ω))}

/-- A probe beside a scan moves a worker that stands at its start to what it told. -/
theorem ends_probe (hdb : db.Sustains ties) {scan : Option OpenScan} (hscan : scan ≠ none)
    (hsame : w.IsSame x.worker) (htied : x.world.Tied past ties scan)
    (hunmoved : x.worker.cursor = w.start) :
    (probe (r.transcribed db allowance)).Ends
      (fun _ y => y.world.Tied past ties scan ∧ MovesByProbe r db allowance past ties w y)
      (fun _ _ => True) x := by
  have hstart : x.worker.cursor = x.worker.start := by rw [hunmoved, hsame.start]
  simp only [probe, Call.ends_bind, ends_worker?]
  refine ends_ask.2 (Call.ends_iff.2 ⟨fun greatest t hask => ?_, fun _ _ _ => trivial,
    fun _ _ => trivial⟩)
  have ht := (RelationalSource.ends_askProbe hdb _ htied).of_ok hask
  cases greatest with
  | none => exact ⟨ht.1, fun hmoved => absurd hstart (ne_of_gt hmoved)⟩
  | some g =>
    refine ends_update.2 ⟨ht.1, fun hmoved => ?_⟩
    have hraised : (x.worker.raise g).cursor = g := by
      unfold Worker.HasAdvanced at hmoved
      unfold Worker.raise at hmoved ⊢
      split at hmoved
      · next hlt => rw [if_pos hlt]
      · exact absurd hstart (ne_of_gt hmoved)
    have hread := ht.2 g rfl hscan
    rw [hsame.spec] at hread hask
    exact ⟨x.world, t, htied.goesOn, List.suffix_refl _, htied.holds_iff.2 hscan,
      hraised.symm ▸ hask, hraised.symm ▸ hread⟩

/-- A worker that ends its scan without rows moved by its probe, if at all. -/
theorem ends_finish (hdb : db.Sustains ties) (hsame : w.IsSame x.worker)
    (htied : x.world.Tied past ties (openScan? x.world.world.lines))
    (hunmoved : x.worker.rowsSeen = 0 → x.worker.cursor = w.start)
    (hopen : openScan? x.world.world.lines ≠ none) :
    (finish (r.transcribed db allowance)).Ends
      (fun reason y => reason = .empty → MovesByProbe r db allowance past ties w y)
      (fun _ _ => True) x := by
  have hclose : ∀ {y : Extraction (Session (Transcribed ω))} {scan : Option OpenScan},
      y.world.Tied past ties scan →
      (y.worker.reason = .empty → MovesByProbe r db allowance past ties w y) →
      (ask (r.transcribed db allowance) .closeScan).Ends (fun _ z =>
        z.worker.reason = .empty →
        MovesByProbe r db allowance past ties w
          { z with worker := { z.worker with phase := .finished z.worker.reason } })
        (fun _ _ => True) y := by
    intro y scan hy hmoves
    refine ends_ask.2 ((RelationalSource.ends_askClose (hy.rebase (List.suffix_refl _))).mono
      (fun _ t ht hreason hmoved => ?_) fun _ _ _ => trivial)
    obtain ⟨u, v, hpast, hlines, hprobed⟩ := hmoves hreason hmoved
    exact ⟨u, v, hpast, hlines.trans ht.goesOn, hprobed⟩
  unfold finish
  simp only [Call.ends_bind, ends_worker?]
  split
  · next hempty =>
    simp only [Call.ends_bind, ends_worker?, ends_update, Call.ends_pure]
    exact (ends_probe hdb hopen hsame htied (hunmoved hempty.1)).imp fun _ y hy =>
      hclose hy.1 fun _ => hy.2
  · next hrest =>
    simp only [Call.ends_bind, ends_worker?, ends_update, Call.ends_pure]
    refine hclose htied fun hreason hmoved => ?_
    have hstart := hunmoved (x.worker.rowsSeen_of_reason hreason)
    exact absurd (hstart.trans hsame.start.symm) (ne_of_gt hmoved)

/-- A turn of a worker leaves it walking or, if it ends without rows, moved by its probe. -/
theorem ends_turn (hdb : db.Sustains ties) (decode : Decoder ρ) (hx : Walks past ties w x) :
    (turn (r.transcribed db allowance) decode).Ends
      (fun o y => o.elim (Walks past ties w y)
        fun page => page = .done .empty → MovesByProbe r db allowance past ties w y)
      (fun _ _ => True) x := by
  simp only [turn, Call.ends_bind, ends_worker?]
  split
  · next reason hphase => exact absurd hphase (hx.unfinished reason)
  · next hphase =>
    simp only [Call.ends_bind, ends_update, Call.ends_pure]
    refine ends_ask.2 ((RelationalSource.ends_askOpen hx.tied).mono (fun _ t ht => ?_)
      fun _ _ _ => trivial)
    refine ⟨hx.same.trans ⟨rfl, rfl, rfl, rfl, rfl⟩, ht.1, hx.unmoved, fun reason h => ?_,
      fun _ => ht.2⟩
    cases h
  · next hphase =>
    simp only [Call.ends_bind, ends_update]
    refine ends_ask.2 ((RelationalSource.ends_fetch hdb (r.excuses_true db ties)
      (fun _ => trivial) _ hx.tied).mono (fun rows t ht => ?_) fun _ _ _ => trivial)
    have hopen : openScan? t.world.lines ≠ none := by
      rw [ht.asked]
      simpa using hx.isOpen hphase
    have hsame : w.IsSame { x.worker with rowsSeen := x.worker.rowsSeen + rows.length } :=
      hx.same.trans ⟨rfl, rfl, rfl, rfl, rfl⟩
    have hunmoved : x.worker.rowsSeen + rows.length = 0 → x.worker.cursor = w.start := fun h =>
      hx.unmoved (by omega)
    split
    · split
      · next hrows =>
        refine ⟨hsame, ht.asked_tied, fun h => hunmoved h, fun reason h => ?_, fun _ => hopen⟩
        exact hx.unfinished reason h
      · simp only [Call.ends_bind, Call.ends_pure, Option.elim_some, Page.done.injEq]
        exact ends_finish hdb hsame ht.asked_tied hunmoved hopen
    · simp only [Call.ends_bind, Call.ends_pure, Option.elim_some, reduceCtorEq, false_implies]
      exact Call.ends_true

/-- A worker whose scan holds no row moves, if at all, to the greatest row that a probe told. -/
theorem movesByProbe_of_nextPage (hdb : db.Sustains ties) (decode : Decoder ρ) {turns : Nat}
    {y : Extraction (Session (Transcribed ω))} (hx : Walks past ties w x)
    (hpage : nextPage (r.transcribed db allowance) decode turns x = (.ok (.done .empty), y)) :
    MovesByProbe r db allowance past ties w y := by
  have hloop : (nextPage (r.transcribed db allowance) decode turns).Ends
      (fun page y => page = .done .empty → MovesByProbe r db allowance past ties w y)
      (fun _ _ => True) x :=
    Call.ends_untilSome (I := fun x => Walks past ties w x)
      (fun x hx => (ends_turn hdb decode hx).imp fun o y hy => by cases o <;> exact hy)
      (fun _ _ => trivial) turns hx
  exact hloop.of_ok hpage rfl

end Extraction

namespace RelationalSource

variable {r : RelationalSource φ} {db : Database ω} {allowance : Nat} {past : Transcript ω}
  {snapshot : ω → Option Catalog}

/-- Where a probe was sent that told a client with an open scan the greatest row of a table: in the
transaction in which the cursor of the scan is declared, where it reads the snapshot of the scan,
exactly if the client did not find its connection closed. -/
def ProbedBeside (db : Database ω) (snapshot : ω → Option Catalog) (entity : Entity)
    (greatest : Cursor) (s t : Session (Transcribed ω)) : Prop :=
  ∃ left before, t.world.lines = .sent (.probe entity) (.ok ()) left :: before ∧
    s.world.lines <:+ before ∧ (IsDeclared before ↔ db.isClosed s.world.world = false) ∧
    ∀ declared, sessionUse before = .scan declared → ∃ c, snapshot declared = some c ∧
      c.IsGreatest entity (some greatest) ∧ c.Behind greatest

/-- What is read in the session of a scan is read in its snapshot, and no row that is stamped later
is passed. A session that was only just connected to has no snapshot. -/
theorem ReadsGreatest.probedBeside (hdb : db.ReadsSnapshots snapshot) {entity : Entity}
    {greatest : Cursor} {s t : Session (Transcribed ω)}
    (h : ReadsGreatest db (fun left w => ∃ c, snapshot left = some c ∧ snapshot w = some c) entity
      greatest s t) :
    ProbedBeside db snapshot entity greatest s t := by
  obtain ⟨w, rows, before, hrun, hrows, hgoesOn, hlines, hopen, hclosed⟩ := h
  rcases hstate : db.isClosed s.world.world
  · obtain ⟨declared, huse, c, hc, hw⟩ := hopen hstate
    obtain ⟨g, hg, hgreatest⟩ := hdb.probe entity c w rows _ hw hrun
    cases hrows.symm.trans hg
    refine ⟨_, before, hlines, hgoesOn, iff_of_true ⟨declared, huse⟩ hstate,
      fun declared' huse' => ?_⟩
    cases huse.symm.trans huse'
    obtain ⟨t, id, hstamp, rfl⟩ := hgreatest.1
    exact ⟨c, hc, hgreatest, Catalog.behind_ofRow hstamp⟩
  · have hundeclared := not_isDeclared_of_isBare (hclosed hstate)
    exact ⟨_, before, hlines, hgoesOn, iff_of_false hundeclared (by simp [hstate]),
      fun declared huse => absurd ⟨declared, huse⟩ hundeclared⟩

/-- While a scan is open, a probe that tells the greatest row was sent in the transaction in which
the cursor of the scan is declared, exactly if the client did not find its connection closed when it
was asked. A worker whose scan held no row moves only by such a probe, and passes nothing that is
stamped later than the snapshot if the probe was sent there. -/
theorem probes_where_declared (r : RelationalSource φ) (db : Database ω) (allowance : Nat)
    (hdb : db.ReadsSnapshots snapshot) {w : ω} {s : Session (Transcribed ω)}
    (hs : (r.transcribed db allowance).Reaches (.start w) s) :
    (∀ entity greatest t, s.client.scan ≠ none →
      (r.transcribed db allowance).ask (.probe entity) s = (.ok (some greatest), t) →
      ProbedBeside db snapshot entity greatest s t) ∧
    ∀ (ρ : Type) (decode : Decoder ρ) spec aggregate start root pageSize turns x,
      Extraction.nextPage (r.transcribed db allowance) decode turns
        ⟨.ofSpec spec aggregate start root pageSize, s⟩ = (.ok (.done .empty), x) →
      x.worker.HasAdvanced →
      ∃ u t : Session (Transcribed ω), s.world.lines <:+ u.world.lines ∧
        t.world.lines <:+ x.world.world.lines ∧ u.client.scan ≠ none ∧
        (r.transcribed db allowance).ask (.probe spec.selection.entity) u =
          (.ok (some x.worker.cursor), t) ∧
        ProbedBeside db snapshot spec.selection.entity x.worker.cursor u t := by
  have htied := (tied_of_reaches hdb.sustains hs).rebase (List.suffix_refl _)
  refine ⟨fun entity greatest t hscan hask => ?_, ?_⟩
  · have hanswered := (ends_askProbe hdb.sustains entity htied).of_ok hask
    exact (hanswered.2 greatest rfl (htied.holds_iff.1 hscan)).probedBeside hdb
  · intro ρ decode spec aggregate start root pageSize turns x hpage hmoved
    have hwalks : Extraction.Walks s.world.lines
        (fun left w => ∃ c, snapshot left = some c ∧ snapshot w = some c)
        (.ofSpec spec aggregate start root pageSize)
        ⟨.ofSpec spec aggregate start root pageSize, s⟩ := by
      refine ⟨.refl _, htied, fun _ => rfl, fun _ hphase => ?_, fun hphase => ?_⟩ <;> cases hphase
    obtain ⟨u, t, hpast, hgoesOn, hscan, hask, hread⟩ :=
      Extraction.movesByProbe_of_nextPage hdb.sustains decode hwalks hpage hmoved
    exact ⟨u, t, hpast, hgoesOn, hscan, hask, hread.probedBeside hdb⟩

end RelationalSource

namespace Server

/-- A catalog of persons who are in no film. -/
def persons (rows : List (String × Nat)) : Catalog where
  films := ∅
  named
    | .person => .ofList (rows.map fun (id, n) => (id, ⟨id, secondOf n⟩))
    | _ => ∅
  links _ := []

/-- Two persons are added, the second of them under an early stamp. -/
def addedPersons (n : Nat) : Catalog := persons ([("p", 2), ("q", 3), ("r", 1)].take (n + 1))

/-- A source over the persons. -/
abbrev personSource : Source (Session (Transcribed Server)) :=
  (client none).transcribed (database addedPersons) 9

/-- The first page of a worker that follows persons through their films. The catalog moves on by so
much with each statement, and the statements meet their fates. -/
def followed (moves : List Nat) (fates : List Fate) :
    Outcome SourceError (Page Unit) × Extraction (Session (Transcribed Server)) :=
  Extraction.nextPage personSource (fun _ => .ok ()) 9
    ⟨.ofSpec (.related "persons" .person) .filmWork .initial none 1, .start (start moves fates)⟩

/-- A scan of the films of persons has been opened. -/
def personsOpened (moves : List Nat) (fates : List Fate) : Session (Transcribed Server) :=
  (personSource.ask (.openScan (.related .person) .initial none) (.start (start moves fates))).2

/-- Its first page. -/
def personsFetched (moves : List Nat) (fates : List Fate) :
    Outcome SourceError (List ChangeRow) × Session (Transcribed Server) :=
  personSource.ask (.fetch 1) (personsOpened moves fates)

/-- The greatest person, asked for after the first page. -/
def personsProbed (moves : List Nat) (fates : List Fate) :
    Outcome SourceError (Option Cursor) × Session (Transcribed Server) :=
  personSource.ask (.probe .person) (personsFetched moves fates).2

/-- The first page is empty, and the scan is still open. -/
theorem reaches_personsFetched {moves : List Nat} {fates : List Fate}
    (hpage : (personsFetched moves fates).1 = .ok []) :
    personSource.Reaches (.start (start moves fates)) (personsFetched moves fates).2 := by
  have hopened : personSource.ask (.openScan (.related .person) .initial none)
      (.start (start moves fates)) = (.ok (), personsOpened moves fates) := rfl
  have hfetched : personSource.ask (.fetch 1) (personsOpened moves fates) =
      (.ok [], (personsFetched moves fates).2) := Prod.ext hpage rfl
  exact (Source.Reaches.start.answered hopened).answered hfetched

/-- The line is a probe that was sent where the cursor of a scan is declared, if it is one. -/
def isProbeBeside : Transcript Server → Bool
  | .sent (.probe _) _ _ :: before => IsDeclared before
  | _ => true

/-- The greatest person is read in the snapshot of the scan, although others were added before the
probe; and a worker without rows moves there. -/
theorem follows_beside_scan :
    (∃ t, personsProbed [0, 0, 1, 1] [] = (.ok (some (.ofRow (secondOf 2) "p")), t) ∧
      RelationalSource.ProbedBeside (database addedPersons) snapshot .person
        (.ofRow (secondOf 2) "p") (personsFetched [0, 0, 1, 1] []).2 t ∧
      IsDeclared t.world.lines.tail) ∧
    ∃ x, followed [0, 0, 1, 1] [] = (.ok (.done .empty), x) ∧ x.worker.HasAdvanced ∧
      ∃ left before declared c,
        .sent (.probe .person) (.ok ()) left :: before <:+ x.world.world.lines ∧
        sessionUse before = .scan declared ∧ snapshot declared = some c ∧
        c.IsGreatest .person (some x.worker.cursor) ∧ c.Behind x.worker.cursor := by
  constructor
  · have hpage : (personsFetched [0, 0, 1, 1] []).1 = .ok [] := by decide +kernel
    have hprobed : (personsProbed [0, 0, 1, 1] []).1 = .ok (some (.ofRow (secondOf 2) "p")) := by
      decide +kernel
    have hdeclared : IsDeclared (personsProbed [0, 0, 1, 1] []).2.world.lines.tail := by
      decide +kernel
    refine ⟨_, Prod.ext hprobed rfl, ?_, hdeclared⟩
    exact ((client none).probes_where_declared (database addedPersons) 9 readsSnapshots_database
      (reaches_personsFetched hpage)).1 _ _ _ (by decide +kernel) (Prod.ext hprobed rfl)
  · have hdone : (followed [0, 0, 1, 1] []).1 = .ok (.done .empty) := by decide +kernel
    have hmoved : (followed [0, 0, 1, 1] []).2.worker.HasAdvanced := by decide +kernel
    have hbeside : (followed [0, 0, 1, 1] []).2.world.world.lines.tails.all isProbeBeside := by
      decide +kernel
    rcases hpage : followed [0, 0, 1, 1] [] with ⟨o, x⟩
    rw [hpage] at hdone hmoved hbeside
    cases hdone
    obtain ⟨u, t, -, hgoesOn, -, -, left, before, hlines, -, -, hread⟩ :=
      ((client none).probes_where_declared (database addedPersons) 9 readsSnapshots_database
        .start).2 Unit _ _ _ _ _ _ _ _ hpage hmoved
    rw [hlines] at hgoesOn
    obtain ⟨declared, huse⟩ : IsDeclared before := by
      simpa [isProbeBeside] using List.all_eq_true.1 hbeside _ ((List.mem_tails _ _).2 hgoesOn)
    obtain ⟨c, hc, hgreatest, hbehind⟩ := hread declared huse
    exact ⟨x, rfl, hmoved, left, before, declared, c, hgoesOn, huse, hc, hgreatest, hbehind⟩

/-- A row that is stamped earlier than the snapshot is no concern of the probe: a person who is
added later under such a stamp is passed. -/
example : (followed [0, 0, 1, 1] []).2.worker.cursor = .ofRow (secondOf 2) "p" ∧
    (addedPersons 0).stamp? .person "r" = none ∧
    (addedPersons (followed [0, 0, 1, 1] []).2.world.world.world.moment).stamp? .person "r" =
      some (secondOf 1) := by
  decide +kernel

/-- The connection is closed behind the first page. The probe is then sent over a new connection,
without any declaration, and the worker moves to a person who was added after its scan. -/
theorem not_behind_added_persons :
    (personSource.Reaches (.start (start [0, 0, 1] [.answered, .answered, .last]))
        (personsFetched [0, 0, 1] [.answered, .answered, .last]).2 ∧
      (personsFetched [0, 0, 1] [.answered, .answered, .last]).2.client.scan ≠ none ∧
      (personsProbed [0, 0, 1] [.answered, .answered, .last]).1 =
        .ok (some (.ofRow (secondOf 3) "q")) ∧
      (personsProbed [0, 0, 1] [.answered, .answered, .last]).2.world.lines.head?.bind
        Exchange.statement? = some (.probe .person) ∧
      ¬IsDeclared (personsProbed [0, 0, 1] [.answered, .answered, .last]).2.world.lines.tail) ∧
    (followed [0, 0, 1] [.answered, .answered, .last]).1 = .ok (.done .empty) ∧
      (followed [0, 0, 1] [.answered, .answered, .last]).2.worker.cursor =
        .ofRow (secondOf 3) "q" ∧
      (addedPersons 0).stamp? .person "q" = none := by
  refine ⟨⟨reaches_personsFetched (by decide +kernel), ?_, ?_, ?_, ?_⟩, ?_, ?_, ?_⟩ <;>
    decide +kernel

end Server

end CatalogSync
