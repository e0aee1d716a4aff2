import CatalogSync.Proofs.Pass.Apart

/-!
# A source over data that do not change

Over data that do not change a source answers from what it was asked since its scan was opened. Two
passes of a pipeline that end well then leave its streams at the same cursors, if they found them at
the same cursors, whatever else was done in between.
-/

namespace CatalogSync

variable {ω σ ρ : Type}

/-- What is answered over data that do not change, from what was asked since a scan was opened. -/
structure Reference (σ : Type) where
  answer : (c : SourceCall) → σ → c.Answer × σ
  /-- With a new scan everything is forgotten that was asked before. -/
  forgets : ∀ selection start root t t',
    answer (.openScan selection start root) t = answer (.openScan selection start root) t'

/-- A source that always answers by the reference. -/
def Reference.source (r : Reference σ) : Source σ :=
  ⟨fun c t => (.ok (r.answer c t).1, (r.answer c t).2)⟩

/-- Whenever the source answers, it answers by the reference, from a part of the world. -/
def Source.Follows (source : Source ω) (part : ω → σ) (r : Reference σ) : Prop :=
  ∀ c w a w', source.ask c w = (.ok a, w') → r.answer c (part w) = (a, part w')

/-- Writing batches leaves a part of the world alone. -/
def Loader.Spares (loader : Loader ω) (part : ω → σ) : Prop :=
  ∀ batch w, part (loader.write batch w).2 = part w

theorem Source.Follows.ask {source : Source ω} {part : ω → σ} {r : Reference σ}
    (h : source.Follows part r) {c : SourceCall} {w w' : ω} {a : c.Answer}
    (hask : source.ask c w = (.ok a, w')) : r.source.ask c (part w) = (.ok a, part w') := by
  simp only [Reference.source, h c w a w' hask]

namespace Extraction

variable {source : Source ω} {part : ω → σ} {r : Reference σ} {decode : Decoder ρ}
  {x x' : Extraction ω} {page : Option (Page ρ)}

/-- A worker of a source that follows a reference goes as one of the reference. -/
theorem Turns.onPart (hsource : source.Follows part r) (h : Turns source decode x page x') :
    Turns r.source decode (x.onPart part) page (x'.onPart part) := by
  have hrebuilds {rows : List ChangeRow} {records : List ρ} {world world' : ω}
      (h : Rebuilds source decode x.worker.aggregate rows world records world') :
      Rebuilds r.source decode x.worker.aggregate rows (part world) records (part world') := by
    obtain ⟨docs, henrich, hdecode⟩ := h
    exact ⟨docs, hsource.ask henrich, hdecode⟩
  cases h with
  | done hphase => exact .done hphase
  | opened hphase hopen => exact .opened hphase (hsource.ask hopen)
  | passed hphase hfetch hstale hrows hfull =>
    exact .passed hphase (hsource.ask hfetch) hstale hrows hfull
  | ended hphase hfetch hstale hlast hlooks hclose =>
    refine .ended hphase (hsource.ask hfetch) hstale hlast ?_ (hsource.ask hclose)
    cases hlooks with
    | past hnot => exact .past hnot
    | up hempty hprobes hprobe => exact .up hempty hprobes (hsource.ask hprobe)
  | yielded hphase hfetch hfresh hfull hdocs =>
    exact .yielded hphase (hsource.ask hfetch) hfresh hfull (hrebuilds hdocs)
  | yieldedLast hphase hfetch hfresh hlast hdocs hclose =>
    exact .yieldedLast hphase (hsource.ask hfetch) hfresh hlast (hrebuilds hdocs)
      (hsource.ask hclose)

/-- So many turns over the reference. -/
abbrev TurnsTo (r : Reference σ) (decode : Decoder ρ) : Extraction σ → Extraction σ → Prop :=
  Relation.ReflTransGen fun y z => ∃ page, Turns r.source decode y page z

/-- A finished worker stays as it is. -/
theorem TurnsTo.eq_of_finished {y z : Extraction σ} {reason : DoneReason}
    (h : TurnsTo r decode y z) (hphase : y.worker.phase = .finished reason) : z = y := by
  induction h with
  | refl => rfl
  | tail _ hturn ih =>
    subst ih
    obtain ⟨page, hturn⟩ := hturn
    have hstays : Turns r.source decode _ (some (.done reason)) _ := .done hphase
    exact (Prod.mk.inj (hturn.turn_eq.symm.trans hstays.turn_eq)).2

/-- Where a worker may stand after so many turns over the reference, the first of which opened its
scan. What the reference was asked before does not matter. -/
def ScansTo (r : Reference σ) (decode : Decoder ρ) (w : Worker) (y : Extraction σ) : Prop :=
  ∀ t, TurnsTo r decode
    ⟨{ w with phase := .scanning }, (r.answer (.openScan w.spec.selection w.start w.root) t).2⟩ y

/-- The first turn of a worker opens its scan. -/
theorem Turns.scansTo (hsource : source.Follows part r) (h : Turns source decode x page x')
    (hidle : x.worker.phase = .idle) : ScansTo r decode x.worker (x'.onPart part) := by
  cases h with
  | @opened world hphase hopen =>
    intro t
    have hanswer := hsource _ _ _ _ hopen
    have hforgets := r.forgets x.worker.spec.selection x.worker.start x.worker.root t (part x.world)
    rw [hforgets, hanswer]
    exact .refl
  | done hphase | passed hphase | ended hphase | yielded hphase | yieldedLast hphase =>
    rw [hidle] at hphase
    cases hphase

/-- Where a worker stands when its scan is finished is determined by how it started. -/
theorem ScansTo.eq {w : Worker} {y z : Extraction σ} {reason reason' : DoneReason}
    (hy : ScansTo r decode w y) (hz : ScansTo r decode w z)
    (hyphase : y.worker.phase = .finished reason) (hzphase : z.worker.phase = .finished reason') :
    y = z := by
  rcases Relation.ReflTransGen.total_of_right_unique (turns_rightUnique r.source decode)
    (hy y.world) (hz y.world) with hyz | hzy
  · exact (TurnsTo.eq_of_finished hyz hyphase).symm
  · exact TurnsTo.eq_of_finished hzy hzphase

end Extraction

namespace Pipeline

variable {p : Pipeline ω ρ} {source : Source ω} {part : ω → σ} {r : Reference σ} {spec : WorkerSpec}
  {allowance : Nat}

/-- A drained worker has walked through its scan. -/
theorem ends_drain_scansTo (hsource : source.Follows part r) (hloader : p.loader.Spares part)
    (spec : WorkerSpec) (allowance : Nat) (st : PassState ω) :
    (p.drain source spec allowance).Ends
      (fun w st' => st'.book.cursors = st.book.cursors ∧ (∃ reason, w.phase = .finished reason) ∧
        Extraction.ScansTo r p.decode (p.workerOf spec st.book.cursors) ⟨w, part st'.book.world⟩)
      (fun _ _ => True) st := by
  let start := p.workerOf spec st.book.cursors
  let J (x : Extraction ω) : Prop :=
    x.worker = start ∨ Extraction.ScansTo r p.decode start (x.onPart part)
  have hturn (x : Extraction ω) (page : Option (Page ρ)) (x' : Extraction ω) (hx : J x)
      (h : Extraction.Turns source p.decode x page x') : J x' := by
    rcases hx with hworker | hscans
    · refine .inr ?_
      rw [← hworker]
      exact h.scansTo hsource (congrArg Worker.phase hworker)
    · exact .inr fun t => (hscans t).tail ⟨page, h.onPart hsource⟩
  have hwrite (batch : Batch) (x : Extraction ω) (result : LoadResult) (world : ω) (hx : J x)
      (h : p.loader.write batch x.world = (.ok result, world)) : J { x with world } := by
    have hpart := hloader batch x.world
    rw [h] at hpart
    rcases hx with hworker | hscans
    · exact .inl hworker
    · refine .inr ?_
      rwa [Extraction.onPart, hpart]
  have hstart : J ⟨start, st.book.world⟩ := .inl rfl
  refine (ends_drain_kept hturn hwrite hstart).mono (fun w st' h => ?_) fun _ _ _ => trivial
  obtain ⟨hcursors, ⟨reason, hphase⟩, hworker | hscans⟩ := h
  · have hidle : w.phase = .idle := congrArg Worker.phase hworker
    rw [hidle] at hphase
    cases hphase
  · exact ⟨hcursors, ⟨reason, hphase⟩, hscans⟩

/-- Where the streams stand after a worker over the reference is done. -/
def Stands (p : Pipeline ω ρ) (r : Reference σ) (spec : WorkerSpec) (b b' : Book ω) : Prop :=
  ∃ w reason t, w.phase = .finished reason ∧
    Extraction.ScansTo r p.decode (p.workerOf spec b.cursors) ⟨w, t⟩ ∧
    ∀ s, b'.position s = if s = spec.stream ∧ w.HasAdvanced then w.cursor else b.position s

/-- No other stream has moved. -/
theorem Stands.other {b b' : Book ω} (h : p.Stands r spec b b') {s : String}
    (hs : s ≠ spec.stream) : b'.position s = b.position s := by
  obtain ⟨w, reason, t, -, -, hpositions⟩ := h
  rw [hpositions, if_neg fun hmoved => hs hmoved.1]

/-- Workers that start alike leave their stream at the same cursor. -/
theorem Stands.eq {b b' c c' : Book ω} (h : p.Stands r spec b b') (h' : p.Stands r spec c c')
    (hstart : p.workerOf spec c.cursors = p.workerOf spec b.cursors) :
    c'.position spec.stream = b'.position spec.stream := by
  obtain ⟨w, reason, t, hphase, hscans, hpositions⟩ := h
  obtain ⟨w', reason', t', hphase', hscans', hpositions'⟩ := h'
  rw [hstart] at hscans'
  obtain rfl : w' = w := congrArg Extraction.worker (hscans'.eq hscans hphase' hphase)
  have hbefore : c.position spec.stream = b.position spec.stream := congrArg Worker.start hstart
  rw [hpositions, hpositions', hbefore]

theorem ends_runGuarded_stands (hsource : source.Follows part r) (hloader : p.loader.Spares part)
    (store : Store ω) (spec : WorkerSpec) (allowance : Nat) (st : PassState ω) :
    (p.runGuarded source store spec allowance).Ends
      (fun _ st' => p.Stands r spec st.book st'.book) (fun _ _ => True) st := by
  rw [ends_runGuarded, ends_runWorker]
  refine (ends_drain_scansTo hsource hloader spec allowance st).mono (fun w st' h => ?_)
    fun _ _ _ => trivial
  obtain ⟨hcursors, ⟨reason, hphase⟩, hscans⟩ := h
  split
  · next hmoved =>
    split
    · refine ⟨w, reason, _, hphase, hscans, fun s => ?_⟩
      rw [Book.position, CursorMap.position_insert]
      simp only [hmoved, and_true]
      rfl
    · trivial
  · next hstood =>
    refine ⟨w, reason, _, hphase, hscans, fun s => ?_⟩
    rw [if_neg fun hmoved => hstood hmoved.2, Book.position, hcursors]
    rfl

variable {store : Store ω}

/-- Workers that end well leave the streams of their pipeline where they leave them, if these stood
where they stood. -/
theorem runAll_determined (hsource : source.Follows part r) (hloader : p.loader.Spares part)
    {specs : List WorkerSpec} (hspecs : ∀ spec ∈ specs, spec ∈ p.workers)
    {st st' after after' : PassState ω}
    (hstart : ∀ s ∈ p.streams, st'.book.position s = st.book.position s)
    (h : p.runAll source store allowance specs st = (.ok (), after))
    (h' : p.runAll source store allowance specs st' = (.ok (), after')) :
    ∀ s ∈ p.streams, after'.book.position s = after.book.position s := by
  induction specs generalizing st st' with
  | nil =>
    cases h
    cases h'
    exact hstart
  | cons spec rest ih =>
    obtain ⟨_, next, hrun, hrest⟩ := Call.bind_eq_ok_iff.1 h
    obtain ⟨_, next', hrun', hrest'⟩ := Call.bind_eq_ok_iff.1 h'
    have hspec : spec ∈ p.workers := hspecs spec List.mem_cons_self
    have hstands := (ends_runGuarded_stands hsource hloader store spec allowance st).of_ok hrun
    have hstands' := (ends_runGuarded_stands hsource hloader store spec allowance st').of_ok hrun'
    refine ih (fun s hs => hspecs s (List.mem_cons_of_mem _ hs)) (fun s hs => ?_) hrest hrest'
    by_cases heq : s = spec.stream
    · subst heq
      exact hstands.eq hstands' (workerOf_congr hspec hstart)
    · rw [hstands.other heq, hstands'.other heq, hstart s hs]

theorem runAll_others (hsource : source.Follows part r) (hloader : p.loader.Spares part)
    {specs : List WorkerSpec} (hspecs : ∀ spec ∈ specs, spec ∈ p.workers) {st after : PassState ω}
    (h : p.runAll source store allowance specs st = (.ok (), after)) {s : String}
    (hs : s ∉ p.streams) : after.book.position s = st.book.position s := by
  induction specs generalizing st with
  | nil =>
    cases h
    rfl
  | cons spec rest ih =>
    obtain ⟨_, next, hrun, hrest⟩ := Call.bind_eq_ok_iff.1 h
    have hspec : spec.stream ∈ p.streams := List.mem_map_of_mem (hspecs spec List.mem_cons_self)
    have hstands := (ends_runGuarded_stands hsource hloader store spec allowance st).of_ok hrun
    have hother : s ≠ spec.stream := fun heq => hs (by rwa [heq])
    rw [ih (fun s hs => hspecs s (List.mem_cons_of_mem _ hs)) hrest, hstands.other hother]

/-- A pass that ends well is one whose workers do. -/
theorem execute_eq_ok {b after : Book ω} {report : PassReport}
    (h : p.execute source store allowance b = (.ok report, after)) :
    p.runAll source store allowance p.workers ⟨b, .zero⟩ = (.ok (), ⟨after, report⟩) := by
  rw [← Call.ends_eq_iff] at h ⊢
  rw [ends_execute] at h
  refine h.imp fun _ st hst => ⟨rfl, ?_⟩
  obtain ⟨rfl, rfl⟩ := hst
  rfl

/-- A pass that ends well moves no stream of another pipeline. -/
theorem execute_others (hsource : source.Follows part r) (hloader : p.loader.Spares part)
    {b after : Book ω} {report : PassReport}
    (h : p.execute source store allowance b = (.ok report, after)) {s : String}
    (hs : s ∉ p.streams) : after.position s = b.position s :=
  runAll_others hsource hloader (fun _ => id) (execute_eq_ok h) hs

/-- Two passes that end well leave the streams of their pipeline at the same cursors, if they found
them at the same cursors. -/
theorem execute_determined (hsource : source.Follows part r) (hloader : p.loader.Spares part)
    {b b' after after' : Book ω} {report report' : PassReport}
    (hstart : ∀ s ∈ p.streams, b'.position s = b.position s)
    (h : p.execute source store allowance b = (.ok report, after))
    (h' : p.execute source store allowance b' = (.ok report', after')) :
    ∀ s ∈ p.streams, after'.position s = after.position s := by
  intro s hs
  have hrun := execute_eq_ok h
  have hrun' := execute_eq_ok h'
  exact runAll_determined hsource hloader (fun _ => id) hstart hrun hrun' s hs

end Pipeline

end CatalogSync
