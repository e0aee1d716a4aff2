import CatalogSync.Proofs.Extract.Paging

/-!
# What a worker and its source say to each other

A worker that is asked for pages until it is done opens its scan, fetches page after page, has the
aggregates behind each page rebuilt that holds a fresh row, asks for the greatest row of its table
if it is to and the scan held no row, and closes the scan. Nothing is assumed of the source: its
rows may come in any order and its pages have any length. Wherever it fails, what was said up to
there is the beginning of such a conversation.
-/

namespace CatalogSync

/-- What is said about one page. -/
structure PageTalk where
  rows : List ChangeRow
  /-- The ids that are asked for and the aggregates found under them, if some are asked for. -/
  enriched : Option (List String × List Json)

/-- All that is said about a scan that is closed. -/
structure Conversation where
  pages : List PageTalk
  /-- The greatest row of the table, as far as there is one, if the source is asked for it. -/
  probed : Option (Option Cursor)

/-- The rows of some pages, in order. -/
def rowsOf (pages : List PageTalk) : List ChangeRow := pages.flatMap PageTalk.rows

namespace PageTalk

variable (w : Worker) (p : PageTalk)

/-- The questions about the page, with how they are answered. -/
def events : List PassEvent :=
  .asked (.fetch w.pageSize) (.ok p.rows) ::
    p.enriched.toList.map fun found => .asked (.enrich w.aggregate found.1) (.ok found.2)

/-- What is said about a page depends only on what the worker always was. -/
theorem events_congr {w v : Worker} (h : w.IsSame v) {p : PageTalk} : p.events v = p.events w := by
  rw [events, events, h.pageSize, h.aggregate]

/-- Aggregates are asked for exactly behind a page with a row after the start, some and none
twice. -/
structure IsProper : Prop where
  enriched_iff : p.enriched.isSome ↔ ∃ r ∈ p.rows, w.start < r.cursor
  ids : ∀ found ∈ p.enriched, found.1 ≠ [] ∧ found.1.Nodup

end PageTalk

namespace Worker

variable (w : Worker)

/-- A probe is not counted among the rows. -/
@[simp] theorem told_rowsSeen (greatest : Option Cursor) :
    (w.told greatest).rowsSeen = w.rowsSeen := by
  cases greatest <;> simp [told]

/-- What the worker says about a page with a fresh row. -/
def enriching (rows : List ChangeRow) (docs : List Json) : PageTalk :=
  ⟨rows, some (distinct ((w.fresh rows).map ChangeRow.rootId), docs)⟩

/-- What is said up to the last of some pages. -/
def talk (pages : List PageTalk) : List PassEvent :=
  .asked (.openScan w.spec.selection w.start w.root) (.ok ()) :: pages.flatMap (PageTalk.events w)

/-- Pages are talked about one after the other. -/
theorem talk_append (pages more : List PageTalk) :
    w.talk (pages ++ more) = w.talk pages ++ more.flatMap (PageTalk.events w) := by
  rw [talk, List.flatMap_append]
  rfl

end Worker

namespace Conversation

variable (w : Worker) (c : Conversation)

/-- The question for the greatest row of the table, if it is asked. -/
def probing : List PassEvent :=
  c.probed.toList.map fun greatest => .asked (.probe w.spec.selection.entity) (.ok greatest)

/-- Everything that is said: one opening, the pages, at most one probe, and one close. -/
def events : List PassEvent := w.talk c.pages ++ c.probing w ++ [.asked .closeScan (.ok ())]

/-- Every page is talked about as it should be, and the greatest row is asked for exactly by a
worker that is to, behind a scan without rows. -/
structure IsProper : Prop where
  pages : ∀ p ∈ c.pages, p.IsProper w
  probed_iff : c.probed.isSome ↔ w.spec.probes ∧ rowsOf c.pages = []

variable {w}

/-- A conversation with a probe is proper where the worker probes and saw no row. -/
theorem isProper_probed {pages : List PageTalk} (h : ∀ p ∈ pages, p.IsProper w)
    (hprobes : w.spec.probes ∧ rowsOf pages = []) (greatest : Option Cursor) :
    IsProper w ⟨pages, some greatest⟩ where
  pages := h
  probed_iff := by simpa using hprobes

/-- A conversation without one is proper where the worker does not probe, or saw rows. -/
theorem isProper_unprobed {pages : List PageTalk} (h : ∀ p ∈ pages, p.IsProper w)
    (hnot : ¬(w.spec.probes ∧ rowsOf pages = [])) : IsProper w ⟨pages, none⟩ where
  pages := h
  probed_iff := by simpa using hnot

/-- Any pages can be followed to the end of a conversation. -/
theorem exists_ofPages {pages : List PageTalk} (h : ∀ p ∈ pages, p.IsProper w) :
    ∃ c : Conversation, c.IsProper w ∧ c.pages = pages := by
  by_cases hprobes : w.spec.probes ∧ rowsOf pages = []
  · exact ⟨_, isProper_probed h hprobes none, rfl⟩
  · exact ⟨_, isProper_unprobed h hprobes, rfl⟩

end Conversation

/-- Events that go as the whole does as far as they go; what was asked last may have failed. -/
def IsBeginning (whole events : List PassEvent) : Prop :=
  events <+: whole ∨ ∃ before call a answer, events = before ++ [.asked call answer] ∧
    (∀ b, answer ≠ .ok b) ∧ before ++ [.asked call (.ok a)] <+: whole

/-- The beginning of a conversation is the beginning of any longer one. -/
theorem IsBeginning.mono {whole whole' events : List PassEvent} (h : IsBeginning whole events)
    (hwhole : whole <+: whole') : IsBeginning whole' events := by
  rcases h with h | ⟨before, call, a, answer, hevents, hanswer, h⟩
  · exact .inl (h.trans hwhole)
  · exact .inr ⟨before, call, a, answer, hevents, hanswer, h.trans hwhole⟩

/-- Why a worker is done that was given these rows. -/
def DoneReason.behind (start : Cursor) (rows : List ChangeRow) : DoneReason :=
  if rows = [] then .empty
  else if ∀ r ∈ rows, ¬start < r.cursor then .caughtUp
  else .exhausted

/-- A scan with a fresh row is exhausted at its end. -/
theorem DoneReason.behind_of_fresh {start : Cursor} {rows : List ChangeRow}
    (h : ∃ r ∈ rows, start < r.cursor) : behind start rows = .exhausted := by
  obtain ⟨r, hr, hlt⟩ := h
  rw [behind, if_neg (List.ne_nil_of_mem hr), if_neg fun hstale => hstale r hr hlt]

namespace Extraction

variable {ω ρ : Type}

section Talking

/-- What was said is the beginning of a conversation. -/
def BreaksOff (w : Worker) (x : Extraction (Logged ω)) : Prop :=
  ∃ c : Conversation, c.IsProper w ∧ IsBeginning (c.events w) x.world.events

/-- A worker in the middle of its scan, after what was said about these pages. -/
structure Talking (w : Worker) (pages : List PageTalk) (x : Extraction (Logged ω)) : Prop where
  same : w.IsSame x.worker
  phase : x.worker.phase = .scanning
  events : x.world.events = w.talk pages
  proper : ∀ p ∈ pages, p.IsProper w
  counted : x.worker.rowsSeen = (rowsOf pages).length
  stood : (∀ r ∈ rowsOf pages, ¬w.start < r.cursor) →
    x.worker.emitted = 0 ∧ x.worker.cursor = w.start
  moved : (∃ r ∈ rowsOf pages, w.start < r.cursor) → w.start < x.worker.cursor

/-- A worker whose conversation has come to its end. -/
structure Closed (w : Worker) (x : Extraction (Logged ω)) (reason : DoneReason) : Prop where
  phase : x.worker.phase = .finished reason
  said : ∃ c : Conversation, c.IsProper w ∧ x.world.events = c.events w ∧
    reason = .behind w.start (rowsOf c.pages)

/-- How far a conversation has come. -/
inductive Conversing (w : Worker) : Extraction (Logged ω) → Prop where
  | silent {world : ω} (hphase : w.phase = .idle) (hcounted : w.rowsSeen = 0)
    (hemitted : w.emitted = 0) (hcursor : w.cursor = w.start) : Conversing w ⟨w, ⟨world, []⟩⟩
  | talking {pages : List PageTalk} {x : Extraction (Logged ω)} (h : Talking w pages x) :
    Conversing w x
  | closed {x : Extraction (Logged ω)} {reason : DoneReason} (h : Closed w x reason) :
    Conversing w x

variable {source : Source ω} {decode : Decoder ρ} {w : Worker} {pages : List PageTalk}
  {x : Extraction (Logged ω)} {rows : List ChangeRow}

/-- A question is noted, however it is answered. -/
theorem ends_ask_noted {c : SourceCall} {A : c.Answer → Extraction (Logged ω) → Prop}
    {F : Option SourceError → Extraction (Logged ω) → Prop}
    (hanswered : ∀ a world, A a ⟨x.worker, ⟨world, x.world.events ++ [.asked c (.ok a)]⟩⟩)
    (hfailed : ∀ e answer world, (∀ b, answer ≠ .ok b) →
      F e ⟨x.worker, ⟨world, x.world.events ++ [.asked c answer]⟩⟩) :
    (ask source.logged c).Ends A F x := by
  rw [ends_ask]
  apply Logged.ends_call
  · exact hanswered
  · exact fun e world => hfailed _ _ world fun b hb => by cases hb
  · exact fun world => hfailed _ _ world fun b hb => by cases hb

/-- The worker is told what is answered to its probe. -/
theorem ends_probe_noted {A : Unit → Extraction (Logged ω) → Prop}
    {F : Option SourceError → Extraction (Logged ω) → Prop}
    (hanswered : ∀ greatest world, A () ⟨x.worker.told greatest, ⟨world,
      x.world.events ++ [.asked (.probe x.worker.spec.selection.entity) (.ok greatest)]⟩⟩)
    (hfailed : ∀ e answer world, (∀ b, answer ≠ .ok b) → F e ⟨x.worker, ⟨world,
      x.world.events ++ [.asked (.probe x.worker.spec.selection.entity) answer]⟩⟩) :
    (probe source.logged).Ends A F x := by
  simp only [probe, Call.ends_bind, ends_worker?]
  refine ends_ask_noted (c := .probe _) (fun greatest world => ?_) hfailed
  cases greatest with
  | none => exact Call.ends_pure.2 (hanswered none world)
  | some c => exact ends_update.2 (hanswered (some c) world)

/-- What is said about some pages may always be gone on with. -/
theorem breaksOff_of_talk (pages : List PageTalk) (hproper : ∀ p ∈ pages, p.IsProper w)
    (h : IsBeginning (w.talk pages) x.world.events) : BreaksOff w x := by
  obtain ⟨c, hc, rfl⟩ := Conversation.exists_ofPages hproper
  refine ⟨c, hc, h.mono ?_⟩
  rw [Conversation.events, List.append_assoc]
  exact List.prefix_append ..

/-- A whole conversation breaks off at its end. -/
theorem Closed.breaksOff {reason : DoneReason} (h : Closed w x reason) : BreaksOff w x := by
  obtain ⟨c, hc, hevents, -⟩ := h.said
  exact ⟨c, hc, .inl (hevents ▸ List.prefix_refl _)⟩

/-- A scan that is closed after all that is to be said ends the conversation. -/
theorem ends_closing {c : Conversation} (hc : c.IsProper w) {v : Worker} {t : Logged ω}
    (ht : t.events = w.talk c.pages ++ c.probing w) {reason : DoneReason}
    (hreason : reason = .behind w.start (rowsOf c.pages)) :
    (ask source.logged .closeScan).Ends
      (fun _ x' => x'.worker = v ∧ Closed w ⟨v.ended reason, x'.world⟩ reason)
      (fun _ x' => BreaksOff w x') ⟨v, t⟩ := by
  refine ends_ask_noted (fun _ world => ?_) fun _ answer world hanswer => ?_
  · refine ⟨rfl, rfl, c, hc, ?_, hreason⟩
    rw [ht, Conversation.events]
  · refine ⟨c, hc, .inr ⟨t.events, .closeScan, (), answer, rfl, hanswer, ?_⟩⟩
    simp [ht, Conversation.events]

namespace Talking

/-- Behind any page the conversation may break off. -/
theorem breaksOff_here (h : Talking w pages x) : BreaksOff w x :=
  breaksOff_of_talk pages h.proper (.inl (h.events ▸ List.prefix_refl _))

/-- No row is fresh if none is behind the start of the worker. -/
theorem fresh_eq_nil_iff (h : Talking w pages x) (rows : List ChangeRow) :
    x.worker.fresh rows = [] ↔ ∀ r ∈ rows, ¬w.start < r.cursor := by
  simp [Worker.fresh, List.filter_eq_nil_iff, h.same.start]

/-- A page with fresh rows has one behind the start of the worker. -/
theorem exists_fresh (h : Talking w pages x) (hfresh : x.worker.fresh rows ≠ []) :
    ∃ r ∈ rows, w.start < r.cursor := by
  simpa using (h.fresh_eq_nil_iff rows).not.1 hfresh

/-- What is said about a page with fresh rows is proper, whatever was answered. -/
theorem isProper_enriching (h : Talking w pages x) (hfresh : x.worker.fresh rows ≠ [])
    (docs : List Json) : (x.worker.enriching rows docs).IsProper w where
  enriched_iff := by simpa [Worker.enriching] using h.exists_fresh hfresh
  ids := by
    rintro _ ⟨⟩
    refine ⟨?_, nodup_distinct _⟩
    obtain ⟨r, hr⟩ := List.exists_mem_of_ne_nil _ hfresh
    exact List.ne_nil_of_mem (mem_distinct.2 (List.mem_map_of_mem hr))

/-- A question that would go on with the conversation may fail. -/
theorem breaksOff (h : Talking w pages x) {p : PageTalk} (hp : p.IsProper w) {call : SourceCall}
    {a : call.Answer} (said : List PassEvent)
    (hsaid : said ++ [.asked call (.ok a)] <+: p.events x.worker)
    {answer : Outcome SourceError call.Answer} (hanswer : ∀ b, answer ≠ .ok b)
    {x' : Extraction (Logged ω)}
    (hx' : x'.world.events = x.world.events ++ (said ++ [.asked call answer])) :
    BreaksOff w x' := by
  refine breaksOff_of_talk (pages ++ [p])
    (List.forall_mem_append.2 ⟨h.proper, List.forall_mem_singleton.2 hp⟩)
    (.inr ⟨x.world.events ++ said, call, a, answer, ?_, hanswer, ?_⟩)
  · rw [hx', List.append_assoc]
  · rw [h.events, Worker.talk_append, List.flatMap_singleton, List.append_assoc,
      ← PageTalk.events_congr h.same]
    exact (List.prefix_append_right_inj _).2 hsaid

/-- A page without a fresh row is only counted. -/
theorem stale (h : Talking w pages x) (hstale : x.worker.fresh rows = []) (world : ω) :
    Talking w (pages ++ [⟨rows, none⟩]) ⟨x.worker.counting rows,
      ⟨world, x.world.events ++ [.asked (.fetch x.worker.pageSize) (.ok rows)]⟩⟩ := by
  have hrows := (h.fresh_eq_nil_iff rows).1 hstale
  have happend : rowsOf (pages ++ [⟨rows, none⟩]) = rowsOf pages ++ rows := by
    simp [rowsOf]
  constructor
  case same => exact h.same.trans (x.worker.isSame_counting rows)
  case phase => exact h.phase
  case events => rw [h.events, h.same.pageSize, Worker.talk_append, List.flatMap_singleton]; rfl
  case proper =>
    refine List.forall_mem_append.2 ⟨h.proper, List.forall_mem_singleton.2 ⟨?_, by simp⟩⟩
    simpa using hrows
  case counted =>
    rw [happend, List.length_append, ← h.counted]
    rfl
  case stood =>
    intro hall
    rw [happend] at hall
    exact h.stood fun r hr => hall r (List.mem_append_left _ hr)
  case moved =>
    rintro ⟨r, hr, hlt⟩
    rw [happend] at hr
    rcases List.mem_append.1 hr with hr | hr
    · exact h.moved ⟨r, hr, hlt⟩
    · exact absurd hlt (hrows r hr)

/-- A page with a fresh row is yielded, however many records are made of it. -/
theorem fresh (h : Talking w pages x) (hfresh : x.worker.fresh rows ≠ []) (docs : List Json)
    {t : Logged ω}
    (ht : t.events = x.world.events ++ (x.worker.enriching rows docs).events x.worker)
    (records : Nat) :
    Talking w (pages ++ [x.worker.enriching rows docs])
      ⟨(x.worker.counting rows).yielding (x.worker.fresh rows) records, t⟩ := by
  have hrow := h.exists_fresh hfresh
  have happend : rowsOf (pages ++ [x.worker.enriching rows docs]) = rowsOf pages ++ rows := by
    simp [rowsOf, Worker.enriching]
  constructor
  case same =>
    exact (h.same.trans (x.worker.isSame_counting rows)).trans (Worker.isSame_yielding ..)
  case phase => simpa using h.phase
  case events =>
    rw [ht, h.events, PageTalk.events_congr h.same, Worker.talk_append, List.flatMap_singleton]
  case proper =>
    exact List.forall_mem_append.2
      ⟨h.proper, List.forall_mem_singleton.2 (h.isProper_enriching hfresh docs)⟩
  case counted =>
    rw [happend, List.length_append, ← h.counted]
    simp [Worker.counting]
  case stood =>
    intro hall
    obtain ⟨r, hr, hlt⟩ := hrow
    rw [happend] at hall
    exact absurd hlt (hall r (List.mem_append_right _ hr))
  case moved =>
    intro _
    have hlast := List.getLast?_eq_some_getLast hfresh
    have hmem := List.mem_filter.1 (List.getLast_mem hfresh)
    have hlt : w.start < ((x.worker.fresh rows).getLast hfresh).cursor :=
      h.same.start ▸ of_decide_eq_true hmem.2
    simp only [Worker.yielding, hlast]
    exact hlt.trans_le (Worker.le_cursor_raise ..).2

/-- Why a worker is done that has no more rows to come is what its rows say. It may have been moved
behind a scan without rows. -/
theorem reason_eq (h : Talking w pages x) {v : Worker} (hcounted : v.rowsSeen = x.worker.rowsSeen)
    (hmoved : rowsOf pages ≠ [] → v = x.worker) :
    v.reason = .behind w.start (rowsOf pages) := by
  rw [Worker.reason, DoneReason.behind, hcounted, h.counted]
  by_cases hnil : rowsOf pages = []
  · rw [if_pos (by simpa using hnil), if_pos hnil]
  · rw [if_neg (by simpa using hnil), if_neg hnil, hmoved hnil, h.same.start]
    by_cases hstale : ∀ r ∈ rowsOf pages, ¬w.start < r.cursor
    · rw [if_pos hstale, if_pos (h.stood hstale)]
    · have hlt : w.start < x.worker.cursor := h.moved (by simpa using hstale)
      rw [if_neg hstale, if_neg fun hstood => hlt.ne' hstood.2]

/-- A scan behind which nothing is to come is ended as it should be. -/
theorem ends_finish (h : Talking w pages x) :
    (finish source.logged).Ends (fun reason x' => Closed w x' reason)
      (fun _ x' => BreaksOff w x') x := by
  have hempty : x.worker.rowsSeen = 0 ↔ rowsOf pages = [] := by
    rw [h.counted, List.length_eq_zero_iff]
  have hclose {c : Conversation} (hc : c.IsProper w) {v : Worker} {t : Logged ω}
      (ht : t.events = w.talk c.pages ++ c.probing w)
      (hv : v.reason = .behind w.start (rowsOf c.pages)) :
      (ask source.logged .closeScan).Ends
        (fun _ x' => Closed w ⟨x'.worker.ended x'.worker.reason, x'.world⟩ x'.worker.reason)
        (fun _ x' => BreaksOff w x') ⟨v, t⟩ := by
    refine (ends_closing hc ht hv).imp ?_
    rintro _ ⟨_, t'⟩ ⟨rfl, hclosed⟩
    exact hclosed
  simp only [finish, Call.ends_bind, ends_worker?]
  split
  · next hprobes =>
    have hnil := hempty.1 hprobes.1
    have hprobed := Conversation.isProper_probed h.proper ⟨h.same.spec ▸ hprobes.2, hnil⟩
    simp only [Call.ends_bind, ends_worker?, ends_update, Call.ends_pure]
    refine ends_probe_noted (fun greatest world => ?_) fun _ answer world hanswer => ?_
    · refine hclose (hprobed greatest) ?_ (h.reason_eq ?_ fun hne => absurd hnil hne)
      · rw [h.events, h.same.spec]
        rfl
      · exact Worker.told_rowsSeen ..
    · refine ⟨_, hprobed none, .inr ⟨x.world.events, _, none, answer, rfl, hanswer, ?_⟩⟩
      rw [h.events, h.same.spec]
      exact List.prefix_append ..
  · next hnot =>
    have hnone : Conversation.IsProper w ⟨pages, none⟩ :=
      Conversation.isProper_unprobed h.proper fun hprobes =>
        hnot ⟨hempty.2 hprobes.2, h.same.spec ▸ hprobes.1⟩
    simp only [Call.ends_bind, ends_worker?, ends_update, Call.ends_pure]
    refine hclose hnone ?_ (h.reason_eq rfl fun _ => rfl)
    rw [h.events, Conversation.probing]
    exact (List.append_nil _).symm

/-- Behind a page with a fresh row its aggregates are asked for, and a short one ends the scan. -/
theorem ends_emit (source : Source ω) (decode : Decoder ρ) (h : Talking w pages x)
    (hfresh : x.worker.fresh rows ≠ []) (world : ω) (short : Bool) :
    (emit source.logged decode (x.worker.fresh rows) short).Ends (fun _ x' => Conversing w x')
      (fun _ x' => BreaksOff w x') ⟨x.worker.counting rows,
        ⟨world, x.world.events ++ [.asked (.fetch x.worker.pageSize) (.ok rows)]⟩⟩ := by
  rw [emit_eq]
  simp only [recordsOf, Call.ends_bind, ends_worker?]
  refine ends_ask_noted (c := .enrich _ _) (fun docs world' => ?_) fun _ answer world' hanswer => ?_
  · have hyielding := h.fresh hfresh docs (t := ⟨world', x.world.events ++
      [.asked (.fetch x.worker.pageSize) (.ok rows)] ++ [.asked (.enrich x.worker.aggregate
        (distinct ((x.worker.fresh rows).map ChangeRow.rootId))) (.ok docs)]⟩)
      (List.append_assoc ..)
    cases hdecode : docs.mapM decode with
    | error e => exact (hyielding 0).breaksOff_here
    | ok records =>
      simp only [Call.ends_pure, ends_update]
      have hmore := hyielding records.length
      split
      · simp only [Call.ends_bind, ends_update, Call.ends_pure]
        obtain ⟨r, hr, hlt⟩ := h.exists_fresh hfresh
        have hmem : r ∈ rowsOf (pages ++ [x.worker.enriching rows docs]) := by
          simp [rowsOf, Worker.enriching, hr]
        have hnone := Conversation.isProper_unprobed hmore.proper fun hprobes =>
          List.ne_nil_of_mem hmem hprobes.2
        refine (ends_closing hnone ?_ (DoneReason.behind_of_fresh ⟨r, hmem, hlt⟩).symm).imp ?_
        · exact hmore.events.trans (List.append_nil _).symm
        · rintro _ ⟨_, t⟩ ⟨rfl, hclosed⟩
          exact .closed hclosed
      · exact .talking hmore
  · exact h.breaksOff (a := []) (h.isProper_enriching hfresh []) [_] (List.prefix_refl _)
      hanswer (List.append_assoc ..)

/-- A page is asked for, and what follows is what its rows ask for. -/
theorem ends_turn (h : Talking w pages x) :
    (turn source.logged decode).Ends
      (fun page x' => Conversing w x' ∧ ∀ reason, page = some (.done reason) → Closed w x' reason)
      (fun _ x' => BreaksOff w x') x := by
  simp only [turn, Call.ends_bind, ends_worker?, h.phase, ends_update]
  refine ends_ask_noted (c := .fetch _) (fun rows world => ?_) fun _ answer world hanswer => ?_
  · change Call.Ends _ _ _ (⟨x.worker.counting rows, _⟩ : Extraction (Logged ω))
    split
    · next hstale =>
      have hmore := h.stale hstale world
      split
      · exact ⟨.talking hmore, fun _ hdone => by cases hdone⟩
      · rw [Call.ends_bind]
        refine hmore.ends_finish.imp fun reason x' hclosed => Call.ends_pure.2 ⟨.closed hclosed, ?_⟩
        rintro _ ⟨⟩
        exact hclosed
    · next hfresh =>
      rw [Call.ends_bind]
      exact (ends_emit source decode h hfresh world _).imp fun records x' hx' =>
        Call.ends_pure.2 ⟨hx', fun _ hdone => by cases hdone⟩
  · exact h.breaksOff (p := ⟨[], none⟩) (a := []) ⟨by simp, by simp⟩ [] (List.prefix_refl _)
      hanswer rfl

end Talking

/-- Wherever a worker is in its conversation, it may break off there. -/
theorem Conversing.breaksOff (h : Conversing w x) : BreaksOff w x := by
  cases h with
  | silent => exact breaksOff_of_talk [] (by simp) (.inl List.nil_prefix)
  | talking h => exact h.breaksOff_here
  | closed h => exact h.breaksOff

/-- A turn goes on with the conversation or breaks it off. -/
theorem Conversing.ends_turn (h : Conversing w x) :
    (turn source.logged decode).Ends
      (fun page x' => Conversing w x' ∧ ∀ reason, page = some (.done reason) → Closed w x' reason)
      (fun _ x' => BreaksOff w x') x := by
  cases h with
  | silent hphase hcounted hemitted hcursor =>
    simp only [turn, Call.ends_bind, ends_worker?, hphase, ends_update, Call.ends_pure]
    refine ends_ask_noted (c := .openScan ..) (fun _ world => ?_) fun _ answer world hanswer => ?_
    · refine ⟨.talking (?_ : Talking w [] _), fun _ hdone => by cases hdone⟩
      constructor
      case same => exact ⟨rfl, rfl, rfl, rfl, rfl⟩
      case phase => rfl
      case events => rfl
      case proper => simp
      case counted => exact hcounted
      case stood => exact fun _ => ⟨hemitted, hcursor⟩
      case moved => simp [rowsOf]
    · exact breaksOff_of_talk [] (by simp)
        (.inr ⟨[], _, (), answer, rfl, hanswer, List.prefix_refl _⟩)
  | talking h => exact h.ends_turn
  | @closed _ reason h =>
    simp only [turn, Call.ends_bind, ends_worker?, h.phase, Call.ends_pure]
    refine ⟨.closed h, ?_⟩
    rintro _ ⟨⟩
    exact h

/-- So does a request for a page. -/
theorem Conversing.ends_nextPage (source : Source ω) (decode : Decoder ρ) (h : Conversing w x)
    (allowance : Nat) :
    (nextPage source.logged decode allowance).Ends
      (fun page x' => Conversing w x' ∧ ∀ reason, page = .done reason → Closed w x' reason)
      (fun _ x' => BreaksOff w x') x := by
  refine Call.ends_untilSome (I := Conversing w) (fun y hy => hy.ends_turn.imp ?_)
    (fun y hy => hy.breaksOff) allowance h
  rintro (_ | page) y' ⟨hy', hdone⟩
  · exact hy'
  · exact ⟨hy', fun reason hpage => hdone reason (congrArg some hpage)⟩

/-- A worker that is done says so again and does nothing else. -/
theorem Closed.nextPage_eq {reason : DoneReason} (h : Closed w x reason) (allowance : Nat) :
    nextPage source.logged decode (allowance + 1) x = (.ok (.done reason), x) := by
  have hturn : turn source.logged decode x =
      ((Outcome.ok (Page.done reason)).map some, x) := (Turns.done h.phase).turn_eq
  exact Call.untilSome_of_some hturn allowance

end Talking

variable {source : Source ω} {decode : Decoder ρ} {c : Cursor}

/-- The worker stands at a cursor or further on. -/
def IsPast (c : Cursor) (x : Extraction ω) : Prop := c ≤ x.worker.cursor

/-- Looking at the worker moves no cursor. -/
theorem keeps_worker? : (worker? (ω := ω)).Keeps (IsPast c) := fun _ => id

/-- Asking the source moves no cursor, whatever it answers. -/
theorem keeps_ask (call : SourceCall) : (ask source call).Keeps (IsPast c) := by
  intro x hx
  exact hx

/-- A change to the worker that does not take its cursor back keeps it past where it was. -/
theorem keeps_update {f : Worker → Worker} (hf : ∀ w, w.cursor ≤ (f w).cursor) :
    (update (ω := ω) f).Keeps (IsPast c) := by
  intro x hx
  exact le_trans hx (hf x.worker)

/-- A probe only ever moves the cursor on. -/
theorem keeps_probe : (probe source).Keeps (IsPast c) := by
  refine keeps_worker?.bind fun w => (keeps_ask _).bind fun greatest => ?_
  cases greatest with
  | none => exact Call.keeps_pure
  | some g => exact keeps_update fun w => (w.le_cursor_raise g).1

/-- So does the end of a scan. -/
theorem keeps_finish : (finish source).Keeps (IsPast c) := by
  have hclose : (do
      ask source .closeScan
      let reason := (← worker?).reason
      update fun w => { w with phase := .finished reason }
      return reason).Keeps (IsPast c) := by
    refine (keeps_ask _).bind fun _ => keeps_worker?.bind fun w => ?_
    refine Call.Keeps.bind ?_ fun _ => Call.keeps_pure
    exact keeps_update fun w => le_rfl
  refine keeps_worker?.bind fun w => ?_
  split
  · exact keeps_probe.bind fun _ => hclose
  · exact hclose

/-- So do the records of a page. -/
theorem keeps_emit (rows : List ChangeRow) (short : Bool) :
    (emit source decode rows short).Keeps (IsPast c) := by
  have hrecords : (recordsOf source decode rows).Keeps (IsPast c) := by
    refine keeps_worker?.bind fun w => (keeps_ask _).bind fun docs => ?_
    split
    · exact Call.keeps_pure
    · exact Call.keeps_fail
  have hyielding (w : Worker) (records : Nat) : w.cursor ≤ (w.yielding rows records).cursor := by
    unfold Worker.yielding
    cases rows.getLast? with
    | none => exact le_rfl
    | some last => exact (w.le_cursor_raise last.cursor).1
  rw [emit_eq]
  refine hrecords.bind fun records => ?_
  refine (keeps_update fun w => hyielding w records.length).bind fun _ => ?_
  split
  · refine (keeps_ask _).bind fun _ => Call.Keeps.bind ?_ fun _ => Call.keeps_pure
    exact keeps_update fun w => le_rfl
  · exact Call.keeps_pure

/-- No turn moves a worker back, however it ends. -/
theorem keeps_turn : (turn source decode).Keeps (IsPast c) := by
  refine keeps_worker?.bind fun w => ?_
  split
  · exact Call.keeps_pure
  · refine (keeps_ask _).bind fun _ => Call.Keeps.bind ?_ fun _ => Call.keeps_pure
    exact keeps_update fun w => le_rfl
  · refine (keeps_ask (.fetch w.pageSize)).bind fun rows => Call.Keeps.bind ?_ fun _ => ?_
    · exact keeps_update fun w => le_rfl
    · dsimp only
      split
      · split
        · exact Call.keeps_pure
        · exact keeps_finish.bind fun _ => Call.keeps_pure
      · exact (keeps_emit _ _).bind fun _ => Call.keeps_pure

/-- Nor does a request for a page. -/
theorem le_cursor_nextPage (source : Source ω) (decode : Decoder ρ) (allowance : Nat)
    (x : Extraction ω) :
    x.worker.cursor ≤ (nextPage source decode allowance x).2.worker.cursor := by
  have hkeeps : (nextPage source decode allowance).Keeps (IsPast x.worker.cursor) := by
    refine Call.keeps_of_ends fun y hy => Call.ends_untilSome (I := IsPast x.worker.cursor)
      (fun z hz => (keeps_turn.ends hz).imp ?_) (fun _ => id) allowance hy
    rintro (_ | page) z' hz'
    · exact hz'
    · exact hz'
  exact hkeeps x le_rfl

/-- A worker was asked for pages and yielded one each time. -/
abbrev Paged (source : Source ω) (decode : Decoder ρ) : Extraction ω → Extraction ω → Prop :=
  Relation.ReflTransGen fun x x' => ∃ allowance records,
    nextPage source decode allowance x = (.ok (.records records), x')

/-- After a page that is not the last, the worker goes on with its conversation. -/
theorem Conversing.paged {w : Worker} {x x' : Extraction (Logged ω)} (h : Conversing w x)
    (hpaged : Paged source.logged decode x x') : Conversing w x' := by
  induction hpaged with
  | refl => exact h
  | tail _ hpage ih =>
    obtain ⟨allowance, records, hpage⟩ := hpage
    exact ((ih.ends_nextPage source decode allowance).of_ok hpage).1

/-- Whatever its source answers, a worker that is asked for pages until it is done or fails keeps to
one conversation: what was said, up to the question that failed, is the beginning of one, and the
whole of one when the worker is done. Then it says why, by the rows it was given, and says the same
again without another question. It never moves back, and noting what it asks changes nothing. -/
theorem keeps_to_conversation (source : Source ω) (decode : Decoder ρ) (spec : WorkerSpec)
    (aggregate : Aggregate) (start : Cursor) (root : Option Cursor) (pageSize : Nat) (world : ω)
    {x : Extraction (Logged ω)}
    (hx : Paged source.logged decode ⟨.ofSpec spec aggregate start root pageSize, ⟨world, []⟩⟩ x)
    {allowance : Nat} {answer : Outcome SourceError (Page ρ)} {x' : Extraction (Logged ω)}
    (hanswer : nextPage source.logged decode allowance x = (answer, x')) :
    (∃ c : Conversation, c.IsProper (.ofSpec spec aggregate start root pageSize) ∧
      IsBeginning (c.events (.ofSpec spec aggregate start root pageSize)) x'.world.events) ∧
    (∀ reason, answer = .ok (.done reason) →
      (∃ c : Conversation, c.IsProper (.ofSpec spec aggregate start root pageSize) ∧
        x'.world.events = c.events (.ofSpec spec aggregate start root pageSize) ∧
        reason = .behind start (rowsOf c.pages)) ∧
      ∀ more, nextPage source.logged decode (more + 1) x' = (.ok (.done reason), x')) ∧
    x.worker.cursor ≤ x'.worker.cursor ∧
    nextPage source decode allowance (x.onPart Logged.world) =
      (answer, x'.onPart Logged.world) := by
  let w : Worker := .ofSpec spec aggregate start root pageSize
  have hstart : Conversing w ⟨w, ⟨world, []⟩⟩ := .silent rfl rfl rfl rfl
  have hends := (hstart.paged hx).ends_nextPage source decode allowance
  refine ⟨?_, ?_, ?_, ?_⟩
  · rcases answer with page | e | _
    · exact (hends.of_ok hanswer).1.breaksOff
    · exact hends.of_error hanswer
    · exact hends.of_unfinished hanswer
  · rintro reason rfl
    have hclosed := (hends.of_ok hanswer).2 reason rfl
    exact ⟨hclosed.said, hclosed.nextPage_eq⟩
  · have hle := le_cursor_nextPage source.logged decode allowance x
    rwa [hanswer] at hle
  · have hmirrors : source.logged.Mirrors Logged.world source := fun c =>
      Logged.mirrors_call (.asked c) (source.ask c)
    have hplain := mirrors_nextPage hmirrors decode allowance x
    rwa [hanswer] at hplain

/-- A worker over four rows, the first of which was handled already, that asks for three at once. -/
def overSharedRow : Extraction (Logged (List ChangeRow)) :=
  ⟨.ofSpec (.related "film" .genre) .filmWork (.ofRow .first "g") none 3, ⟨[], []⟩⟩

/-- The next page of a worker over these rows. -/
def sharedPage (x : Extraction (Logged (List ChangeRow))) :
    Outcome SourceError (Page String) × Extraction (Logged (List ChangeRow)) :=
  nextPage (Source.ofRows Source.sharedRow none).logged Decoder.string 2 x

/-- It yields two pages, the second of which is short and ends the scan; then it is done. -/
theorem keeps_to_conversation_shared :
    ∃ x x', Paged (Source.ofRows Source.sharedRow none).logged Decoder.string overSharedRow x ∧
      sharedPage x = (.ok (.done .exhausted), x') ∧
      ∃ c : Conversation, c.IsProper overSharedRow.worker ∧
        x'.world.events = c.events overSharedRow.worker ∧ x'.world.events.length = 6 ∧
        DoneReason.exhausted = .behind (.ofRow .first "g") (rowsOf c.pages) := by
  have hfirst : (sharedPage overSharedRow).1 = .ok (.records ["a", "b"]) := by decide +kernel
  have hsecond : (sharedPage (sharedPage overSharedRow).2).1 = .ok (.records ["c"]) := by
    decide +kernel
  have hthird : (sharedPage (sharedPage (sharedPage overSharedRow).2).2).1 =
      .ok (.done .exhausted) := by
    decide +kernel
  have hlength : (sharedPage (sharedPage (sharedPage overSharedRow).2).2).2.world.events.length =
      6 := by
    decide +kernel
  have hpaged : Paged (Source.ofRows Source.sharedRow none).logged Decoder.string overSharedRow
      (sharedPage (sharedPage overSharedRow).2).2 :=
    .tail (.single ⟨2, _, Prod.ext hfirst rfl⟩) ⟨2, _, Prod.ext hsecond rfl⟩
  have hdone := Prod.ext (y := (_, (sharedPage (sharedPage (sharedPage overSharedRow).2).2).2))
    hthird rfl
  obtain ⟨-, hsaid, -⟩ := keeps_to_conversation (Source.ofRows Source.sharedRow none)
    Decoder.string (.related "film" .genre) .filmWork (.ofRow .first "g") none 3 [] hpaged hdone
  obtain ⟨⟨c, hc, hevents, hreason⟩, -⟩ := hsaid _ rfl
  exact ⟨_, _, hpaged, hdone, c, hc, hevents, hlength, hreason⟩

end Extraction

end CatalogSync
