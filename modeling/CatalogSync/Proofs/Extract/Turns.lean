import CatalogSync.Proofs.Extract.Steps

/-!
# The turns of a worker

A turn goes one of six ways, and `Turns` lists them with everything the source was asked on the way;
`Stumbles` lists where a turn can fail. What is known of every worker follows from these lists by
cases.
-/

namespace CatalogSync

namespace SourceCall

/-- The question opens a scan. -/
def Opens : SourceCall → Prop
  | openScan .. => True
  | _ => False

/-- The question is one that ends a scan. -/
def Ends : SourceCall → Prop
  | probe _ => True
  | closeScan => True
  | _ => False

/-- A call that ends a scan opens none. -/
theorem Ends.not_opens {c : SourceCall} (h : c.Ends) : ¬c.Opens := by
  cases c with
  | openScan selection start root => exact absurd h id
  | _ => exact id

end SourceCall

namespace Source

variable {ω : Type} (source : Source ω) (P : SourceCall → Prop)

/-- The source was asked such a question, and answered in one way or another. -/
def Asked (world world' : ω) : Prop := ∃ c, P c ∧ (source.ask c world).2 = world'

/-- The source was asked such questions time and again. -/
abbrev Asks : ω → ω → Prop := Relation.ReflTransGen (source.Asked P)

variable {source P}

/-- A question that was put is one that may be put. -/
theorem asked_of_eq {c : SourceCall} (hc : P c) {world world' : ω}
    {answer : Outcome SourceError c.Answer} (h : source.ask c world = (answer, world')) :
    source.Asked P world world' :=
  ⟨c, hc, congrArg Prod.snd h⟩

/-- Questions of one kind are questions of every wider kind. -/
theorem Asks.mono {Q : SourceCall → Prop} (hPQ : ∀ c, P c → Q c) {world world' : ω}
    (h : source.Asks P world world') : source.Asks Q world world' := by
  have hasked : source.Asked P ≤ source.Asked Q := fun _ _ ⟨c, hc, hask⟩ => ⟨c, hPQ c hc, hask⟩
  exact Relation.ReflTransGen.mono hasked _ _ h

/-- What every question keeps is kept by any questions. -/
theorem Asks.keeps {K : ω → Prop} (hask : ∀ c, (source.ask c).Keeps K)
    {world world' : ω} (h : source.Asks P world world') (hworld : K world) : K world' := by
  induction h with
  | refl => exact hworld
  | tail _ hasked ih =>
    obtain ⟨c, -, rfl⟩ := hasked
    exact hask c _ ih

end Source

namespace Worker

/-- The worker that was given some rows more. -/
def counting (w : Worker) (rows : List ChangeRow) : Worker :=
  { w with rowsSeen := w.rowsSeen + rows.length }

/-- The worker that was told of the greatest row of its table, if there is one. -/
def told (w : Worker) : Option Cursor → Worker
  | some greatest => w.raise greatest
  | none => w

def ended (w : Worker) (reason : DoneReason) : Worker := { w with phase := .finished reason }

/-- Counting rows changes nothing that a worker always is. -/
theorem isSame_counting (w : Worker) (rows : List ChangeRow) : w.IsSame (w.counting rows) :=
  ⟨rfl, rfl, rfl, rfl, rfl⟩

/-- Being told the greatest row changes nothing that a worker always is. -/
theorem isSame_told (w : Worker) (greatest : Option Cursor) : w.IsSame (w.told greatest) := by
  cases greatest with
  | none => exact .refl w
  | some c => exact w.isSame_raise c

/-- Coming to its end changes nothing that a worker always is. -/
theorem isSame_ended (w : Worker) (reason : DoneReason) : w.IsSame (w.ended reason) :=
  ⟨rfl, rfl, rfl, rfl, rfl⟩

/-- Counting rows leaves the phase. -/
@[simp] theorem counting_phase (w : Worker) (rows : List ChangeRow) :
    (w.counting rows).phase = w.phase := rfl

/-- A worker that has come to its end is finished. -/
@[simp] theorem ended_phase (w : Worker) (reason : DoneReason) :
    (w.ended reason).phase = .finished reason := rfl

/-- Being told the greatest row hands on no records. -/
@[simp] theorem told_emitted (w : Worker) (greatest : Option Cursor) :
    (w.told greatest).emitted = w.emitted := by
  cases greatest <;> simp [told]

/-- Being told the greatest row leaves the phase. -/
@[simp] theorem told_phase (w : Worker) (greatest : Option Cursor) :
    (w.told greatest).phase = w.phase := by
  cases greatest <;> simp [told]

/-- A worker that is raised stands where it stood, or further on where it is raised to. -/
theorem cursor_raise (w : Worker) (c : Cursor) :
    (w.raise c).cursor = w.cursor ∨ w.cursor < c ∧ (w.raise c).cursor = c := by
  unfold raise
  split
  · next h => exact .inr ⟨h, rfl⟩
  · exact .inl rfl

/-- A worker that is raised has come as far as it stood, and as far as it is raised to. -/
theorem le_cursor_raise (w : Worker) (c : Cursor) :
    w.cursor ≤ (w.raise c).cursor ∧ c ≤ (w.raise c).cursor := by
  unfold raise
  split
  · next h => exact ⟨h.le, le_rfl⟩
  · next h => exact ⟨le_rfl, not_lt.1 h⟩

end Worker

namespace Extraction

variable {ω ρ : Type} (source : Source ω) (decode : Decoder ρ)

/-- Behind a scan without rows the worker asks for the greatest row of the table, if it is to. -/
inductive Looks (w : Worker) (world : ω) : Worker → ω → Prop where
  | past (h : ¬(w.rowsSeen = 0 ∧ w.spec.probes = true)) : Looks w world w world
  | up {greatest : Option Cursor} {world' : ω} (hempty : w.rowsSeen = 0)
    (hprobes : w.spec.probes = true)
    (hprobe : source.ask (.probe w.spec.selection.entity) world = (.ok greatest, world')) :
    Looks w world (w.told greatest) world'

/-- The aggregates behind some rows are found, and shaped as records. -/
def Rebuilds (aggregate : Aggregate) (rows : List ChangeRow) (world : ω) (records : List ρ)
    (world' : ω) : Prop :=
  ∃ docs, source.ask (.enrich aggregate (distinct (rows.map ChangeRow.rootId))) world =
    (.ok docs, world') ∧ docs.mapM decode = .ok records

/-- How a turn can go, with the page it yields if it yields one. -/
inductive Turns (x : Extraction ω) : Option (Page ρ) → Extraction ω → Prop where
  /-- The worker was done already. -/
  | done {reason : DoneReason} (hphase : x.worker.phase = .finished reason) :
    Turns x (some (.done reason)) x
  | opened {world : ω} (hphase : x.worker.phase = .idle)
    (hopen : source.ask (.openScan x.worker.spec.selection x.worker.start x.worker.root) x.world =
      (.ok (), world)) :
    Turns x none ⟨{ x.worker with phase := .scanning }, world⟩
  /-- A full page holds nothing fresh. -/
  | passed {rows : List ChangeRow} {world : ω} (hphase : x.worker.phase = .scanning)
    (hfetch : source.ask (.fetch x.worker.pageSize) x.world = (.ok rows, world))
    (hstale : x.worker.fresh rows = []) (hrows : rows ≠ [])
    (hfull : x.worker.pageSize ≤ rows.length) :
    Turns x none ⟨x.worker.counting rows, world⟩
  /-- The last page holds nothing fresh. -/
  | ended {rows : List ChangeRow} {world world' world'' : ω} {w : Worker}
    (hphase : x.worker.phase = .scanning)
    (hfetch : source.ask (.fetch x.worker.pageSize) x.world = (.ok rows, world))
    (hstale : x.worker.fresh rows = []) (hlast : rows = [] ∨ rows.length < x.worker.pageSize)
    (hlooks : Looks source (x.worker.counting rows) world w world')
    (hclose : source.ask .closeScan world' = (.ok (), world'')) :
    Turns x (some (.done w.reason)) ⟨w.ended w.reason, world''⟩
  | yielded {rows : List ChangeRow} {records : List ρ} {world world' : ω}
    (hphase : x.worker.phase = .scanning)
    (hfetch : source.ask (.fetch x.worker.pageSize) x.world = (.ok rows, world))
    (hfresh : x.worker.fresh rows ≠ []) (hfull : x.worker.pageSize ≤ rows.length)
    (hrebuilds : Rebuilds source decode x.worker.aggregate (x.worker.fresh rows) world records
      world') :
    Turns x (some (.records records))
      ⟨(x.worker.counting rows).yielding (x.worker.fresh rows) records.length, world'⟩
  /-- The last page holds something fresh. -/
  | yieldedLast {rows : List ChangeRow} {records : List ρ} {world world' world'' : ω}
    (hphase : x.worker.phase = .scanning)
    (hfetch : source.ask (.fetch x.worker.pageSize) x.world = (.ok rows, world))
    (hfresh : x.worker.fresh rows ≠ []) (hlast : rows.length < x.worker.pageSize)
    (hrebuilds : Rebuilds source decode x.worker.aggregate (x.worker.fresh rows) world records
      world')
    (hclose : source.ask .closeScan world' = (.ok (), world'')) :
    Turns x (some (.records records))
      ⟨((x.worker.counting rows).yielding (x.worker.fresh rows) records.length).ended .exhausted,
        world''⟩

/-- How a turn can fail, or not finish. -/
inductive Stumbles (x : Extraction ω) : Extraction ω → Prop where
  | opening {answer : Outcome SourceError Unit} {world : ω} (hphase : x.worker.phase = .idle)
    (hopen : source.ask (.openScan x.worker.spec.selection x.worker.start x.worker.root) x.world =
      (answer, world)) :
    Stumbles x ⟨x.worker, world⟩
  | fetching {answer : Outcome SourceError (List ChangeRow)} {world : ω}
    (hphase : x.worker.phase = .scanning)
    (hfetch : source.ask (.fetch x.worker.pageSize) x.world = (answer, world)) :
    Stumbles x ⟨x.worker, world⟩
  /-- The last page held nothing fresh. -/
  | ending {rows : List ChangeRow} {world : ω} {x' : Extraction ω}
    (hphase : x.worker.phase = .scanning)
    (hfetch : source.ask (.fetch x.worker.pageSize) x.world = (.ok rows, world))
    (hstale : x.worker.fresh rows = []) (hasks : source.Asks SourceCall.Ends world x'.world) :
    Stumbles x x'
  /-- The page held something fresh. -/
  | yielding {rows : List ChangeRow} {world : ω} {x' : Extraction ω}
    (hphase : x.worker.phase = .scanning)
    (hfetch : source.ask (.fetch x.worker.pageSize) x.world = (.ok rows, world))
    (hfresh : x.worker.fresh rows ≠ []) (hasks : source.Asks (¬·.Opens) world x'.world) :
    Stumbles x x'

/-- A turn that fails in a scan has not opened another one. -/
theorem Stumbles.asks {source : Source ω} {x x' : Extraction ω} (h : Stumbles source x x')
    (hphase : x.worker.phase = .scanning) : source.Asks (¬·.Opens) x.world x'.world := by
  cases h with
  | opening hidle hopen =>
    rw [hphase] at hidle
    cases hidle
  | fetching _ hfetch => exact .single (Source.asked_of_eq id hfetch)
  | ending _ hfetch hstale hasks =>
    exact .head (Source.asked_of_eq id hfetch) (hasks.mono fun _ => SourceCall.Ends.not_opens)
  | yielding _ hfetch hfresh hasks => exact .head (Source.asked_of_eq id hfetch) hasks

/-- However a turn fails, the source was only asked. -/
theorem Stumbles.asksAny {source : Source ω} {x x' : Extraction ω} (h : Stumbles source x x') :
    source.Asks (fun _ => True) x.world x'.world := by
  cases h with
  | opening _ hopen => exact .single (Source.asked_of_eq trivial hopen)
  | fetching _ hfetch => exact .single (Source.asked_of_eq trivial hfetch)
  | ending _ hfetch _ hasks =>
    exact .head (Source.asked_of_eq trivial hfetch) (hasks.mono fun _ _ => trivial)
  | yielding _ hfetch _ hasks =>
    exact .head (Source.asked_of_eq trivial hfetch) (hasks.mono fun _ _ => trivial)

variable {source decode} {x : Extraction ω}

/-- A question ends as it is answered, or fails in the world that it leaves. -/
theorem ends_ask_of {c : SourceCall} {A : c.Answer → Extraction ω → Prop}
    {F : Option SourceError → Extraction ω → Prop}
    (hanswered : ∀ a world, source.ask c x.world = (.ok a, world) → A a ⟨x.worker, world⟩)
    (hfailed : ∀ e answer world, source.ask c x.world = (answer, world) →
      F e ⟨x.worker, world⟩) :
    (ask source c).Ends A F x := by
  rw [ends_ask, Call.ends_iff]
  exact ⟨hanswered, fun e world h => hfailed _ _ _ h, fun world h => hfailed _ _ _ h⟩

/-- A probe tells the worker what the source answers, or ends with the worker as it was. -/
theorem ends_probe_told {A : Unit → Extraction ω → Prop}
    {F : Option SourceError → Extraction ω → Prop}
    (hanswered : ∀ greatest world,
      source.ask (.probe x.worker.spec.selection.entity) x.world = (.ok greatest, world) →
        A () ⟨x.worker.told greatest, world⟩)
    (hfailed : ∀ e world, source.Asked SourceCall.Ends x.world world → F e ⟨x.worker, world⟩) :
    (probe source).Ends A F x := by
  simp only [probe, Call.ends_bind, ends_worker?]
  refine ends_ask_of (c := .probe _) (fun greatest world hprobe => ?_)
    fun e _ world hprobe => hfailed e world (Source.asked_of_eq trivial hprobe)
  have hanswer := hanswered greatest world hprobe
  cases greatest with
  | none => exact Call.ends_pure.2 hanswer
  | some c => exact ends_update.2 hanswer

/-- A scan without fresh rows ends after the worker has looked up, if it was to. -/
theorem ends_finish_looks (source : Source ω) (x : Extraction ω) :
    (finish source).Ends
      (fun reason x' => ∃ w world, Looks source x.worker x.world w world ∧ reason = w.reason ∧
        source.ask .closeScan world = (.ok (), x'.world) ∧ x'.worker = w.ended w.reason)
      (fun _ x' => source.Asks SourceCall.Ends x.world x'.world) x := by
  simp only [finish, Call.ends_bind, ends_worker?]
  split
  · next hprobes =>
    simp only [Call.ends_bind, ends_worker?, ends_update, Call.ends_pure]
    refine ends_probe_told (fun greatest world hprobe => ?_) fun e world hasked => .single hasked
    have hworld : source.Asks SourceCall.Ends x.world world :=
      .single (Source.asked_of_eq trivial hprobe)
    exact ends_ask_of (c := .closeScan)
      (fun _ world' h => ⟨_, world, .up hprobes.1 hprobes.2 hprobe, rfl, h, rfl⟩)
      fun _ _ _ h => hworld.tail (Source.asked_of_eq trivial h)
  · next hnot =>
    simp only [Call.ends_bind, ends_worker?, ends_update, Call.ends_pure]
    exact ends_ask_of (c := .closeScan) (fun _ world' h => ⟨_, _, .past hnot, rfl, h, rfl⟩)
      fun _ _ _ h => .single (Source.asked_of_eq trivial h)

/-- Records are rebuilt from the aggregates of the rows, and no scan is opened on the way. -/
theorem ends_recordsOf_rebuilds (source : Source ω) (decode : Decoder ρ) (rows : List ChangeRow)
    (x : Extraction ω) :
    (recordsOf source decode rows).Ends
      (fun records x' => x'.worker = x.worker ∧
        Rebuilds source decode x.worker.aggregate rows x.world records x'.world ∧
        source.Asks (¬·.Opens) x.world x'.world)
      (fun _ x' => source.Asks (¬·.Opens) x.world x'.world) x := by
  simp only [recordsOf, Call.ends_bind, ends_worker?]
  refine ends_ask_of (c := .enrich _ _) (fun docs world henrich => ?_)
    fun _ _ _ henrich => .single (Source.asked_of_eq id henrich)
  have hworld : source.Asks (¬·.Opens) x.world world := .single (Source.asked_of_eq id henrich)
  cases hdecode : docs.mapM decode with
  | error e => exact Call.ends_fail.2 hworld
  | ok records => exact Call.ends_pure.2 ⟨rfl, ⟨docs, henrich, hdecode⟩, hworld⟩

/-- Every turn goes one of the ways that are listed. -/
theorem ends_turn_listed (source : Source ω) (decode : Decoder ρ) (x : Extraction ω) :
    (turn source decode).Ends (Turns source decode x) (fun _ => Stumbles source x) x := by
  simp only [turn, Call.ends_bind, ends_worker?]
  cases hphase : x.worker.phase with
  | finished reason => exact Call.ends_pure.2 (.done hphase)
  | idle =>
    simp only [Call.ends_bind, ends_update, Call.ends_pure]
    exact ends_ask_of (c := .openScan ..) (fun _ world h => .opened hphase h)
      fun _ _ world h => .opening hphase h
  | scanning =>
    simp only [Call.ends_bind, ends_update]
    refine ends_ask_of (c := .fetch _) (fun rows world hfetch => ?_)
      fun _ _ world h => .fetching hphase h
    change Call.Ends _ _ _ (⟨x.worker.counting rows, world⟩ : Extraction ω)
    split
    · next hstale =>
      split
      · next hrows =>
        have hfull : x.worker.pageSize ≤ rows.length := by simpa using hrows.2
        exact Call.ends_pure.2 (.passed hphase hfetch hstale hrows.1 hfull)
      · next hrows =>
        have hlast : rows = [] ∨ rows.length < x.worker.pageSize := by
          by_cases hnil : rows = []
          · exact .inl hnil
          · exact .inr (by simpa [hnil] using hrows)
        rw [Call.ends_bind]
        refine (ends_finish_looks source _).mono (fun reason x' h => ?_)
          fun _ x' h => .ending hphase hfetch hstale h
        obtain ⟨w, world', hlooks, rfl, hclose, hworker⟩ := h
        obtain ⟨worker, world''⟩ := x'
        obtain rfl : worker = w.ended w.reason := hworker
        exact Call.ends_pure.2 (.ended hphase hfetch hstale hlast hlooks hclose)
    · next hfresh =>
      rw [Call.ends_bind, emit_eq]
      simp only [Call.ends_bind, ends_update]
      refine (ends_recordsOf_rebuilds source decode _ _).mono (fun records y h => ?_)
        fun _ x' h => .yielding hphase hfetch hfresh h
      obtain ⟨hworker, hrebuilds, hworld⟩ := h
      obtain ⟨worker, world'⟩ := y
      obtain rfl : worker = x.worker.counting rows := hworker
      split
      · next hshort =>
        simp only [Call.ends_bind, ends_update, Call.ends_pure]
        have hlast : rows.length < x.worker.pageSize := of_decide_eq_true hshort
        exact ends_ask_of (c := .closeScan)
          (fun _ world'' hclose => .yieldedLast hphase hfetch hfresh hlast hrebuilds hclose)
          fun _ _ _ h =>
            .yielding hphase hfetch hfresh (hworld.tail (Source.asked_of_eq id h))
      · next hshort =>
        have hfull : x.worker.pageSize ≤ rows.length := by simpa using hshort
        exact Call.ends_pure.2 (.yielded hphase hfetch hfresh hfull hrebuilds)

/-- What every turn keeps is kept by the turns up to the next page. -/
theorem ends_nextPage_kept {I : Extraction ω → Prop} {F : Extraction ω → Prop}
    (hturn : ∀ x page x', I x → Turns source decode x page x' → I x')
    (hstumble : ∀ x x', I x → Stumbles source x x' → F x') (hF : ∀ x, I x → F x)
    (allowance : Nat) (hx : I x) :
    (nextPage source decode allowance).Ends
      (fun page x' => I x' ∧ ∃ y, I y ∧ Turns source decode y (some page) x')
      (fun _ x' => F x') x := by
  refine Call.ends_untilSome (I := I) (fun y hy => ?_) hF allowance hx
  refine (ends_turn_listed source decode y).mono (fun page z hz => ?_) fun _ z hz =>
    hstumble y z hy hz
  cases page with
  | none => exact hturn y none z hy hz
  | some page => exact ⟨hturn y _ z hy hz, y, hy, hz⟩

/-- A worker stays over its stream with every turn. -/
theorem Turns.isSame {x' : Extraction ω} {page : Option (Page ρ)}
    (h : Turns source decode x page x') : x.worker.IsSame x'.worker := by
  have hyielding (rows : List ChangeRow) (records : Nat) : x.worker.IsSame
      ((x.worker.counting rows).yielding (x.worker.fresh rows) records) :=
    (x.worker.isSame_counting rows).trans (Worker.isSame_yielding ..)
  cases h with
  | done hphase => exact .refl _
  | opened hphase hopen => exact ⟨rfl, rfl, rfl, rfl, rfl⟩
  | passed hphase hfetch hstale hrows hfull => exact x.worker.isSame_counting _
  | @ended rows world world' world'' w hphase hfetch hstale hlast hlooks hclose =>
    have hlooked : (x.worker.counting rows).IsSame w := by
      cases hlooks with
      | past hnot => exact .refl _
      | up hempty hprobes hprobe => exact Worker.isSame_told ..
    exact ((x.worker.isSame_counting rows).trans hlooked).trans (w.isSame_ended _)
  | yielded hphase hfetch hfresh hfull hrebuilds => exact hyielding ..
  | yieldedLast hphase hfetch hfresh hlast hrebuilds hclose =>
    exact (hyielding ..).trans (Worker.isSame_ended ..)

/-- A worker that is done has finished its scan. -/
theorem Turns.finished {x' : Extraction ω} {reason : DoneReason}
    (h : Turns source decode x (some (.done reason)) x') :
    ∃ reason, x'.worker.phase = .finished reason := by
  cases h with
  | done hphase => exact ⟨_, hphase⟩
  | ended hphase hfetch hstale hlast hlooks hclose => exact ⟨_, rfl⟩

/-- A worker counts the records that a turn yields. -/
theorem Turns.emitted {x' : Extraction ω} {page : Option (Page ρ)}
    (h : Turns source decode x page x') :
    x'.worker.emitted = x.worker.emitted + (page.elim [] Page.toList).length := by
  cases h with
  | done hphase => rfl
  | opened hphase hopen => rfl
  | passed hphase hfetch hstale hrows hfull => rfl
  | ended hphase hfetch hstale hlast hlooks hclose =>
    cases hlooks with
    | past hnot => rfl
    | up hempty hprobes hprobe => exact Worker.told_emitted ..
  | yielded hphase hfetch hfresh hfull hrebuilds => exact Worker.yielding_emitted ..
  | yieldedLast hphase hfetch hfresh hlast hrebuilds hclose => exact Worker.yielding_emitted ..

/-- A worker counts the records on its pages. -/
theorem ends_nextPage_emitted (source : Source ω) (decode : Decoder ρ) (allowance : Nat)
    (x : Extraction ω) :
    (nextPage source decode allowance).Ends
      (fun page x' => x'.worker.emitted = x.worker.emitted + page.toList.length)
      (fun _ _ => True) x := by
  refine Call.ends_untilSome (I := fun y => y.worker.emitted = x.worker.emitted)
    (fun y hy => ?_) (fun _ _ => trivial) allowance rfl
  refine (ends_turn_listed source decode y).mono (fun page z hz => ?_) fun _ _ _ => trivial
  have hcounted := hz.emitted
  rw [hy] at hcounted
  cases page with
  | none => exact hcounted
  | some page => exact hcounted

/-- A question that is answered leaves the worker where it is. -/
theorem ask_eq {c : SourceCall} {a : c.Answer} {world : ω}
    (h : source.ask c x.world = (.ok a, world)) : ask source c x = (.ok a, ⟨x.worker, world⟩) := by
  simp only [ask, Call.within, h]

/-- A scan ends as it is listed. -/
theorem Looks.finish_eq {w w' : Worker} {world world' world'' : ω}
    (h : Looks source w world w' world')
    (hclose : source.ask .closeScan world' = (.ok (), world'')) :
    finish source ⟨w, world⟩ = (.ok w'.reason, ⟨w'.ended w'.reason, world''⟩) := by
  rw [← Call.ends_eq_iff]
  simp only [finish, Call.ends_bind, ends_worker?]
  cases h with
  | past hnot =>
    rw [if_neg hnot]
    simp only [Call.ends_bind, ends_worker?, ends_update, Call.ends_pure]
    rw [Call.ends_iff_of_ok (ask_eq (x := ⟨w, world⟩) hclose)]
    exact ⟨rfl, rfl⟩
  | @up greatest _ hempty hprobes hprobe =>
    rw [if_pos ⟨hempty, hprobes⟩]
    simp only [probe, Call.ends_bind, ends_worker?, ends_update, Call.ends_pure]
    rw [Call.ends_iff_of_ok (ask_eq (x := ⟨w, world⟩) hprobe)]
    have htold := ask_eq (x := ⟨w.told greatest, world'⟩) hclose
    cases greatest with
    | none =>
      rw [Call.ends_pure]
      exact (Call.ends_iff_of_ok htold).2 ⟨rfl, rfl⟩
    | some g =>
      rw [ends_update]
      exact (Call.ends_iff_of_ok htold).2 ⟨rfl, rfl⟩

/-- Rows are turned into records as it is listed. -/
theorem Rebuilds.recordsOf_eq {rows : List ChangeRow} {w : Worker} {records : List ρ}
    {world world' : ω} (h : Rebuilds source decode w.aggregate rows world records world') :
    recordsOf source decode rows ⟨w, world⟩ = (.ok records, ⟨w, world'⟩) := by
  obtain ⟨docs, henrich, hdecode⟩ := h
  rw [← Call.ends_eq_iff]
  simp only [recordsOf, Call.ends_bind, ends_worker?]
  rw [Call.ends_iff_of_ok (ask_eq (x := ⟨w, world⟩) henrich), hdecode]
  exact Call.ends_pure.2 ⟨rfl, rfl⟩

/-- A turn that is listed is what the worker does. -/
theorem Turns.turn_eq {x' : Extraction ω} {page : Option (Page ρ)}
    (h : Turns source decode x page x') :
    turn source decode x = (.ok page, x') := by
  rw [← Call.ends_eq_iff]
  simp only [turn, Call.ends_bind, ends_worker?]
  cases h with
  | done hphase =>
    rw [hphase]
    exact Call.ends_pure.2 ⟨rfl, rfl⟩
  | opened hphase hopen =>
    rw [hphase]
    simp only [Call.ends_bind, Call.ends_iff_of_ok (ask_eq hopen), ends_update, Call.ends_pure,
      and_self]
  | @passed rows world hphase hfetch hstale hrows hfull =>
    have hfull' : ¬decide (rows.length < x.worker.pageSize) := by simpa using hfull
    rw [hphase]
    simp only [Call.ends_bind, Call.ends_iff_of_ok (ask_eq hfetch), ends_update, if_pos hstale]
    rw [if_pos ⟨hrows, hfull'⟩]
    exact ⟨rfl, rfl⟩
  | @ended rows world world' world'' w hphase hfetch hstale hlast hlooks hclose =>
    have hlast' : ¬(rows ≠ [] ∧ ¬decide (rows.length < x.worker.pageSize)) := by
      rintro ⟨hrows, hfull⟩
      exact hfull (decide_eq_true (hlast.resolve_left hrows))
    rw [hphase]
    simp only [Call.ends_bind, Call.ends_iff_of_ok (ask_eq hfetch), ends_update, if_pos hstale]
    rw [if_neg hlast', Call.ends_bind]
    exact (Call.ends_iff_of_ok (hlooks.finish_eq hclose)).2 ⟨rfl, rfl⟩
  | @yielded rows records world world' hphase hfetch hfresh hfull hrebuilds =>
    have hfull' : ¬decide (rows.length < x.worker.pageSize) := by simpa using hfull
    rw [hphase]
    simp only [Call.ends_bind, Call.ends_iff_of_ok (ask_eq hfetch), ends_update, if_neg hfresh]
    rw [emit_eq]
    simp only [Call.ends_bind, ends_update, if_neg hfull', Call.ends_pure]
    exact (Call.ends_iff_of_ok (hrebuilds.recordsOf_eq (w := x.worker.counting rows))).2 ⟨rfl, rfl⟩
  | @yieldedLast rows records world world' world'' hphase hfetch hfresh hlast hrebuilds hclose =>
    rw [hphase]
    simp only [Call.ends_bind, Call.ends_iff_of_ok (ask_eq hfetch), ends_update, if_neg hfresh]
    rw [emit_eq]
    simp only [Call.ends_bind, ends_update, if_pos (decide_eq_true hlast), Call.ends_pure]
    refine (Call.ends_iff_of_ok (hrebuilds.recordsOf_eq (w := x.worker.counting rows))).2 ?_
    exact (Call.ends_iff_of_ok (ask_eq (x := ⟨_, world'⟩) hclose)).2 ⟨rfl, rfl⟩

/-- What the worker does is determined. -/
theorem turns_rightUnique (source : Source ω) (decode : Decoder ρ) :
    Relator.RightUnique fun x x' => ∃ page, Turns source decode x page x' := by
  rintro x y z ⟨page, hy⟩ ⟨page', hz⟩
  have heq := hy.turn_eq.symm.trans hz.turn_eq
  exact (Prod.mk.inj heq).2

end Extraction

end CatalogSync
