import CatalogSync.Proofs.Session.Calls

/-!
# How a source is asked

One attempt at a time a call keeps the client tied to the transcript. Giving up a lost connection
makes the next attempt find it so, and closing a scan leaves nothing to be tied.
-/

namespace CatalogSync

open Transcript

variable {φ ω α : Type}

namespace Session

/-- How repeated calls fail: the client is tied. -/
def FailsTied (past : Transcript ω) (ties : ω → ω → Prop) (excused : SourceError → Prop)
    (scan : Option OpenScan) : Option SourceError → Session (Transcribed ω) → Prop
  | none, s => IsOrderly s.world.lines
  | some e, s => s.Tied past ties scan ∧ (excused e ∨ isBare s.world.lines)

/-- The client is tied, if the call came to an end. -/
def Settles (past : Transcript ω) (ties : ω → ω → Prop) (e : Option SourceError)
    (s : Session (Transcribed ω)) : Prop :=
  IsOrderly s.world.lines ∧ (e.isSome → s.Tied past ties (openScan? s.world.lines))

/-- No scan is held, whatever was asked for; the transcript goes on from where it was. -/
structure Released (past : Transcript ω) (scan : Option OpenScan) (s : Session (Transcribed ω)) :
    Prop where
  orderly : IsOrderly s.world.lines
  goesOn : past <:+ s.world.lines
  asked : openScan? s.world.lines = scan
  held : s.client.scan = none

variable {ties : ω → ω → Prop} {past : Transcript ω} {scan : Option OpenScan}
  {s : Session (Transcribed ω)}

/-- A client that was asked for nothing. -/
def start (w : ω) : Session (Transcribed ω) := ⟨.fresh, ⟨w, []⟩⟩

/-- A client that was asked for nothing is tied to no scan. -/
theorem Tied.start (w : ω) : (start w).Tied [] ties none where
  orderly := isOrderly_nil
  goesOn := List.suffix_refl _
  asked := rfl
  held := rfl
  backed := by
    intro held hheld
    cases hheld

/-- The past may be any that the transcript goes on from. -/
theorem Tied.rebase (h : s.Tied past ties scan) {past' : Transcript ω}
    (hpast : past' <:+ s.world.lines) : s.Tied past' ties scan where
  orderly := h.orderly
  goesOn := hpast
  asked := h.asked
  held := h.held
  backed := h.backed

/-- A tied client is tied to the scan that the transcript has. -/
theorem Tied.asked_tied (h : s.Tied past ties scan) :
    s.Tied past ties (openScan? s.world.lines) := by
  rwa [h.asked]

/-- A call that fails with its client tied has come to an end. -/
theorem FailsTied.settles {excused : SourceError → Prop} {e : Option SourceError}
    (h : FailsTied past ties excused scan e s) : Settles past ties e s := by
  cases e with
  | none => exact ⟨h, fun he => by cases he⟩
  | some e => exact ⟨h.1.orderly, fun _ => h.1.asked_tied⟩

/-- Beginning or ending a transaction takes up no scan. -/
theorem Released.controls (h : Released past scan s) {st : Statement} (hst : st.Controls)
    (o : Outcome Refusal Unit) (w : ω) : Released past scan (s.sent st o w) where
  orderly := isOrderly_cons.2 ⟨by cases hst <;> trivial, h.orderly⟩
  goesOn := h.goesOn.trans (List.suffix_cons _ _)
  asked := h.asked
  held := h.held

/-- A client without a scan is tied where none was asked for. -/
theorem Released.tied (h : Released past none s) : s.Tied past ties none where
  orderly := h.orderly
  goesOn := h.goesOn
  asked := h.asked
  held := by rw [h.held, Option.map_none]
  backed := by
    intro held hheld
    rw [h.held] at hheld
    cases hheld

end Session

namespace RelationalSource

variable {r : RelationalSource φ} {db : Database ω} {ties : ω → ω → Prop}
  {excused : SourceError → Prop} {past : Transcript ω} {scan : Option OpenScan}
  {s : Session (Transcribed ω)}

/-- Giving up a lost connection leaves the client tied. -/
theorem ends_dropping_tied {c : Call SourceError (Session (Transcribed ω)) α}
    {A : α → Session (Transcribed ω) → Prop}
    (h : c.Ends A (Session.Fails past ties excused scan) s) :
    (dropping db.transcribed c).Ends A
      (fun e t => Session.FailsTied past ties excused scan e t) s := by
  rw [ends_dropping]
  refine h.mono (fun _ _ => id) fun e t ht => ?_
  rcases e with _ | e
  · exact ht
  · obtain ⟨haligned, hbacked, hexcused⟩ := ht
    rw [Option.any_some]
    by_cases htransient : e.isTransient
    · rw [if_pos htransient]
      exact ⟨haligned.dropConnection, hexcused⟩
    · rw [if_neg htransient]
      exact ⟨⟨haligned, hbacked (by simpa using htransient)⟩, hexcused⟩

/-- A repeated attempt ends as each of its attempts does. -/
theorem ends_retrying [Growth φ] {operation : String} {allowance : Nat}
    {attempt : Call SourceError (Session (Transcribed ω)) α}
    {A : α → Session (Transcribed ω) → Prop}
    (hattempt : ∀ t : Session (Transcribed ω), t.Tied past ties scan →
      attempt.Ends A (Session.Fails past ties excused scan) t)
    (hs : s.Tied past ties scan) :
    (r.retrying db.transcribed operation allowance attempt).Ends A
      (fun e t => Session.FailsTied past ties excused scan e t ∧
        ∀ e', e = some e' → Retryable.isTransient e' → r.policy.maxAttempts ≠ none) s := by
  refine Policy.ends_retry (I := fun t => t.Tied past ties scan) (fun t ht => ?_)
    (fun _ t ht => ht.orderly) hs
  refine (ends_dropping_tied (hattempt t ht)).mono (fun _ _ => id) fun e t' ht' => ⟨ht', ?_⟩
  rintro e' rfl -
  exact ht'.1

/-- One attempt to fetch hands out a page that the scan then stands behind. -/
theorem ends_fetchOnce (hdb : db.Sustains ties) (he : r.Excuses db ties excused)
    (hscan : scan = none → excused noOpenScan) (allowance count : Nat)
    (hs : s.Tied past ties scan) :
    (r.fetchOnce db.transcribed allowance count).Ends
      (fun page t => (t.noted (.handed page)).Tied past ties (scan.map (·.handing page)))
      (Session.Fails past ties excused scan) s := by
  have hfill :
      ∀ {page : PageFill} {t : Session (Transcribed ω)}, t.Tied past ties scan → CanFetch t →
      (r.fill db.transcribed allowance page).Ends (fun rows t =>
        (updateScan fun scan => { scan with last := rows.getLast? <|> scan.last }).Ends
          (fun _ t => (t.noted (.handed rows)).Tied past ties (scan.map (·.handing rows)))
          (Session.Fails past ties excused scan) t)
        (Session.Fails past ties excused scan) t := fun ht hcan =>
    (ends_fill hdb he allowance ht hcan).imp fun rows _ ht' => ht'.handed rows
  simp only [fetchOnce, Call.ends_bind, ends_client?]
  rcases hheld : s.client.scan with _ | held
  · have hnone : scan = none := by rw [← hs.held, hheld, Option.map_none]
    exact ⟨hs.toAligned, fun _ => hs.backed, .inl (hscan hnone)⟩
  · rcases hdeclared : held.isDeclared
    · simp only [hdeclared, Bool.not_false, if_true, Call.ends_bind]
      refine (ends_declare hdb he hs hheld hdeclared).imp fun _ t ht => ?_
      exact hfill ht.1 (.inr ⟨_, ht.2, rfl⟩)
    · simp only [hdeclared, Bool.not_true, Bool.false_eq_true, if_false, Call.ends_bind]
      exact hfill hs (.inr ⟨held, hheld, hdeclared⟩)

/-- A statement that may be sent at any time keeps the client tied. -/
theorem ends_ask (hdb : db.Sustains ties) {st : Statement} (hst : st.Reads)
    (hs : s.Tied past ties scan)
    (hadmits : ∀ (t : Transcript ω) o w, Admits t (.sent st o w)) :
    (r.ask db.transcribed st).Ends (fun _ t => t.Tied past ties scan)
      (Session.Fails past ties (fun _ => True) scan) s := by
  have hread : ∀ t : Session (Transcribed ω), t.Tied past ties scan →
      (run db.transcribed st).Ends (fun _ t => t.Tied past ties scan)
        (Session.Fails past ties (fun _ => True) scan) t := fun t ht =>
    ends_read hdb hst ht (hadmits _) (fun _ _ _ => .inl trivial) fun _ _ _ => id
  unfold ask
  rw [Call.ends_bind]
  exact ends_ensureConnection hdb (r.excuses_true db ties) hs (fun _ _ => hread s hs) fun _ w =>
    hread _ (hs.toAligned.connected w)

/-- Aggregates may be asked for beside a scan, and over whatever connection there is. -/
theorem ends_enrichOnce (hdb : db.Sustains ties) (aggregate : Aggregate) (ids : List String)
    (hs : s.Tied past ties scan) :
    (r.enrichOnce db.transcribed aggregate ids).Ends (fun _ t => t.Tied past ties scan)
      (Session.Fails past ties (fun _ => True) scan) s := by
  unfold enrichOnce
  rw [Call.ends_bind]
  refine (ends_ask hdb (.enrich aggregate ids) hs fun _ _ _ => trivial).imp fun rows t ht => ?_
  rw [Call.ends_ofExcept]
  rcases enrichedDocuments rows with e | docs
  · exact ⟨ht.toAligned, fun _ => ht.backed, .inl trivial⟩
  · exact ht

/-- A sign of life may be asked for beside a scan, and over whatever connection there is. -/
theorem ends_ping (hdb : db.Sustains ties) (hs : s.Tied past ties scan) :
    (r.ping db.transcribed).Ends (fun _ t => t.Tied past ties scan)
      (Session.Fails past ties (fun _ => True) scan) s := by
  unfold ping
  rw [Call.ends_bind]
  refine (ends_ask hdb .ping hs fun _ _ _ => trivial).imp fun rows t ht => ?_
  split
  · exact ht
  · exact ⟨ht.toAligned, fun _ => ht.backed, .inl trivial⟩

/-- A client with an open scan was told the greatest row last. It asked in the session in which the
scan's cursor is declared, unless it found its connection closed: then it asked over a new one. -/
def ReadsGreatest (db : Database ω) (ties : ω → ω → Prop) (entity : Entity) (greatest : Cursor)
    (s t : Session (Transcribed ω)) : Prop :=
  ∃ w rows before, db.run (.probe entity) w = (.ok rows, t.world.world) ∧
    latestCursor rows = .ok (some greatest) ∧ s.world.lines <:+ before ∧
    t.world.lines = .sent (.probe entity) (.ok ()) t.world.world :: before ∧
    (db.isClosed s.world.world = false → ∃ left, sessionUse before = .scan left ∧ ties left w) ∧
    (db.isClosed s.world.world = true → isBare before)

/-- A probe that may be sent is answered. -/
theorem ends_probe (hdb : db.Sustains ties) (entity : Entity) (hs : s.Tied past ties scan)
    (hcan : scan = none ∨ CanFetch s) {A : List LatestRow → Session (Transcribed ω) → Prop}
    (hA : ∀ rows w, db.run (.probe entity) s.world.world = (.ok rows, w) →
      (s.sent (.probe entity) (.ok ()) w).Tied past ties scan →
      A rows (s.sent (.probe entity) (.ok ()) w)) :
    (run db.transcribed (.probe entity)).Ends A
      (Session.Fails past ties (fun _ => True) scan) s := by
  refine ends_read hdb (.probe entity) hs (fun _ _ => ?_) (fun _ _ _ => .inl trivial) hA
  rcases hcan with rfl | hbare | ⟨held, hheld, hdeclared⟩
  · exact .inl hs.asked
  · exact .inr (.inl hbare)
  · obtain ⟨-, left, huse, -⟩ := hs.backed held hheld hdeclared
    exact .inr (.inr ⟨left, huse⟩)

/-- One attempt to probe asks only where it may. Beside a scan it answers only if the scan counts as
declared. -/
theorem ends_probeOnce (hdb : db.Sustains ties) (entity : Entity) (hs : s.Tied past ties scan) :
    (r.probeOnce db.transcribed entity).Ends
      (fun greatest t => t.Tied past ties scan ∧ ∀ g, greatest = some g → scan ≠ none →
        s.client.scan.any (!·.isDeclared) = false ∧ ReadsGreatest db ties entity g s t)
      (Session.Fails past ties (fun _ => True) scan) s := by
  simp only [probeOnce, ask, Call.ends_bind, ends_client?]
  split
  · exact ⟨hs, fun _ h => by cases h⟩
  · next hall =>
    rw [Bool.not_eq_true] at hall
    have hdeclared : scan ≠ none → ∃ held ∈ s.client.scan, held.isDeclared = true := by
      intro hscan
      rcases hheld : s.client.scan with _ | held
      · exact absurd hheld (hs.holds_iff.2 hscan)
      · exact ⟨held, rfl, by simpa [hheld] using hall⟩
    have hcan : scan = none ∨ CanFetch s := by
      by_cases hscan : scan = none
      · exact .inl hscan
      · exact .inr (.inr (hdeclared hscan))
    have hanswer {rows : List LatestRow} {t : Session (Transcribed ω)}
        (ht : t.Tied past ties scan) (hreads : ∀ g, latestCursor rows = .ok (some g) →
          scan ≠ none → ReadsGreatest db ties entity g s t) :
        (Call.ofExcept (latestCursor rows)).Ends (fun greatest t => t.Tied past ties scan ∧
          ∀ g, greatest = some g → scan ≠ none →
            s.client.scan.any (!·.isDeclared) = false ∧ ReadsGreatest db ties entity g s t)
          (Session.Fails past ties (fun _ => True) scan) t := by
      rw [Call.ends_ofExcept]
      rcases hrows : latestCursor rows with e | greatest
      · exact ⟨ht.toAligned, fun _ => ht.backed, .inl trivial⟩
      · exact ⟨ht, fun g hg hscan => ⟨hall, hreads g (hg ▸ hrows) hscan⟩⟩
    simp only [Call.ends_bind]
    refine ends_ensureConnection hdb (r.excuses_true db ties) hs (fun _ hopen => ?_)
      fun hclosed w => ?_
    · refine ends_probe hdb entity hs hcan fun rows v hrun ht => hanswer ht fun g hg hscan => ?_
      obtain ⟨held, hheld, hdeclared⟩ := hdeclared hscan
      refine ⟨_, rows, s.world.lines, hrun, hg, List.suffix_refl _, rfl,
        fun _ => (hs.backed held hheld hdeclared).2, fun hclosed => ?_⟩
      rw [hopen] at hclosed
      cases hclosed
    · refine ends_probe hdb entity (hs.toAligned.connected w) (.inr (.inl rfl))
        fun rows v hrun ht => hanswer ht fun g hg hscan => ?_
      obtain ⟨held, hheld, hdeclared⟩ := hdeclared hscan
      have hconnection := (hs.backed held hheld hdeclared).1
      refine ⟨_, rows, _, hrun, hg, List.suffix_cons _ _, rfl, fun hopen => ?_, fun _ => rfl⟩
      rw [hclosed hconnection] at hopen
      cases hopen

/-- A scan that outlives its connection no longer counts as declared, so that the next attempt to
probe answers nothing. -/
theorem dropConnection_undeclared (hs : s.Aligned past scan) (hscan : scan ≠ none) :
    (dropConnection db.transcribed s).client.scan.any (!·.isDeclared) = true := by
  rcases hheld : s.client.scan with _ | held
  · exact absurd hheld (hs.holds_iff.2 hscan)
  · simp [dropConnection, DatabaseClient.reconnected, hheld]

/-- A scan is ended by closing its cursor and then, however that went, its transaction. -/
theorem ends_endScan {A : Unit → Session ω → Prop} {F : Option SourceError → Session ω → Prop}
    {s : Session ω} :
    (endScan db).Ends A F s ↔
      (run db .close).Ends (fun _ t => (ignoring (run db .commit)).Ends A F t)
      (fun e t => e.elim (F none t) fun _ => (ignoring (run db .rollback)).Ends A F t) s := by
  unfold endScan
  rcases h : run db .close s with ⟨_ | e | _, t⟩ <;> simp [Call.Ends, h]

/-- Beginning or ending a transaction holds no scan, whatever comes of it. -/
theorem ends_control {st : Statement} (hst : st.Controls) (hs : s.Released past scan) :
    (run db.transcribed st).Ends (fun _ t => t.Released past scan)
      (fun _ t => t.Released past scan) s :=
  ends_run.2 ⟨fun _ _ _ => hs.controls hst _ _, fun _ _ _ => hs.controls hst _ _,
    fun _ _ => hs.controls hst _ _⟩

/-- Closing a scan does not fail, and leaves none that is held. -/
theorem ends_closeScan (horderly : IsOrderly s.world.lines) (hpast : past <:+ s.world.lines)
    (hasked : openScan? s.world.lines = scan) :
    (closeScan db.transcribed).Ends (fun _ t => t.Released past scan)
      (fun e t => e = none ∧ IsOrderly t.world.lines) s := by
  have hreleased : Session.Released past scan
      { s with client := { s.client with scan := none } } := ⟨horderly, hpast, hasked, rfl⟩
  have hpassed : ∀ (e : Option SourceError) (t : Session (Transcribed ω)), t.Released past scan →
      e.elim (none = (none : Option SourceError) ∧ IsOrderly t.world.lines)
        fun _ => t.Released past scan := by
    rintro (_ | e) t ht
    · exact ⟨rfl, ht.orderly⟩
    · exact ht
  by_cases hdeclared : s.client.scan.any OpenScan.isDeclared && s.client.hasConnection &&
      !db.transcribed.isClosed s.world
  · have hend : (endScan db.transcribed).Ends (fun _ t => t.Released past scan)
        (fun e t => e = none ∧ IsOrderly t.world.lines)
        { s with client := { s.client with scan := none } } := by
      rw [ends_endScan]
      refine (ends_control .close hreleased).mono (fun _ t ht => ?_) fun e t ht => ?_
      · rw [ends_ignoring]
        exact (ends_control .commit ht).mono (fun _ _ => id) hpassed
      · rcases e with _ | e
        · exact ⟨rfl, ht.orderly⟩
        · rw [Option.elim_some, ends_ignoring]
          exact (ends_control .rollback ht).mono (fun _ _ => id) hpassed
    have hclose : closeScan db.transcribed s =
        endScan db.transcribed { s with client := { s.client with scan := none } } :=
      if_pos hdeclared
    exact (Call.ends_congr hclose).2 hend
  · have hclose : closeScan db.transcribed s =
        (.ok (), { s with client := { s.client with scan := none } }) := if_neg hdeclared
    unfold Call.Ends
    rw [hclose]
    exact hreleased

/-- Opening a scan holds what was asked for, if there is such a scan. -/
theorem ends_openScan {selection : Selection} {start : Cursor} {root : Option Cursor}
    (horderly : IsOrderly s.world.lines) (hpast : past <:+ s.world.lines)
    (hasked : openScan? s.world.lines = if Query.hasScan selection then
      some ⟨selection, start.timestamp, root.map Cursor.timestamp, none, false⟩ else none) :
    (openScan db.transcribed selection start root).Ends
      (fun _ t => t.Tied past ties (openScan? t.world.lines) ∧ openScan? t.world.lines ≠ none)
      (Session.Settles past ties) s := by
  unfold openScan
  rw [Call.ends_bind]
  refine (ends_closeScan horderly hpast hasked).mono (fun _ t ht => ?_) ?_
  · split
    · next hscan =>
      rw [if_pos hscan] at ht
      refine ⟨⟨⟨ht.orderly, ht.goesOn, rfl, ht.asked.symm⟩, backed_of_undeclared rfl rfl⟩, ?_⟩
      exact ht.asked ▸ Option.some_ne_none _
    · next hscan =>
      rw [if_neg hscan] at ht
      exact ⟨ht.orderly, fun _ => ht.tied.asked_tied⟩
  · rintro _ t ⟨rfl, ht⟩
    exact ⟨ht, fun h => by cases h⟩

section

variable [Growth φ] {allowance : Nat}

/-- A page is handed out from where the scan stands. -/
theorem ends_fetch (hdb : db.Sustains ties) (he : r.Excuses db ties excused)
    (hscan : scan = none → excused noOpenScan) (count : Nat) (hs : s.Tied past ties scan) :
    ((r.transcribed db allowance).ask (.fetch count)).Ends
      (fun page t => t.Tied past ties (scan.map (·.handing page)))
      (fun e t => Session.FailsTied past ties excused scan e t ∧
        ∀ e', e = some e' → Retryable.isTransient e' → r.policy.maxAttempts ≠ none) s := by
  simp only [transcribed, Call.ends_bind, ends_note, Call.ends_pure]
  exact ends_retrying (fun t ht => ends_fetchOnce hdb he hscan allowance count ht)
    (hs.after_asked rfl rfl)

/-- A probe beside a scan is answered in its first attempt, since a lost connection takes the
declaration with it. -/
theorem ends_askProbe (hdb : db.Sustains ties) (entity : Entity) (hs : s.Tied past ties scan) :
    ((r.transcribed db allowance).ask (.probe entity)).Ends
      (fun greatest t => t.Tied past ties scan ∧ ∀ g, greatest = some g → scan ≠ none →
        ReadsGreatest db ties entity g s t)
      (fun e t => Session.FailsTied past ties (fun _ => True) scan e t ∧
        ∀ e', e = some e' → Retryable.isTransient e' → r.policy.maxAttempts ≠ none) s := by
  simp only [transcribed, Call.ends_bind, ends_note]
  refine Policy.ends_retry (I := fun t => t.Tied past ties scan ∧ (scan ≠ none →
    t = s.noted (.asked (.probe entity)) ∨ t.client.scan.any (!·.isDeclared) = true))
    (fun t ht => ?_) (fun _ t ht => ht.1.orderly) ⟨hs.after_asked rfl rfl, fun _ => .inl rfl⟩
  rw [ends_dropping]
  refine (ends_probeOnce hdb entity ht.1).mono (fun greatest u hu => ?_) fun e u hu => ?_
  · refine ⟨hu.1, fun g hg hscan => ?_⟩
    obtain ⟨hall, w, rows, before, hrun, hrows, hlines, hread⟩ := hu.2 g hg hscan
    rcases ht.2 hscan with rfl | hany
    · exact ⟨w, rows, before, hrun, hrows, (List.suffix_cons _ _).trans hlines, hread⟩
    · rw [hany] at hall
      cases hall
  · rcases e with _ | e
    · exact ⟨hu, fun _ he => by cases he⟩
    · obtain ⟨haligned, hbacked, hexcused⟩ := hu
      rw [Option.any_some]
      by_cases htransient : e.isTransient
      · rw [if_pos htransient]
        exact ⟨⟨haligned.dropConnection, hexcused⟩, fun _ _ _ =>
          ⟨haligned.dropConnection, fun hscan => .inr (dropConnection_undeclared haligned hscan)⟩⟩
      · rw [if_neg htransient]
        refine
          ⟨⟨⟨haligned, hbacked (by simpa using htransient)⟩, hexcused⟩, fun e' he' htrans => ?_⟩
        cases he'
        exact absurd htrans htransient

/-- A scan is closed without an error. -/
theorem ends_askClose (hs : s.Tied past ties scan) :
    ((r.transcribed db allowance).ask .closeScan).Ends
      (fun _ t => t.Tied past ties none) (fun e t => e = none ∧ IsOrderly t.world.lines) s := by
  simp only [transcribed, Call.ends_bind, ends_note]
  exact (ends_closeScan (hs.orderly.asked .closeScan)
    (hs.goesOn.trans (List.suffix_cons _ _)) rfl).imp fun _ t ht => ht.tied

/-- A scan that is opened is the one that is held. -/
theorem ends_askOpen {selection : Selection} {start : Cursor} {root : Option Cursor}
    (hs : s.Tied past ties scan) :
    ((r.transcribed db allowance).ask (.openScan selection start root)).Ends
      (fun _ t => t.Tied past ties (openScan? t.world.lines) ∧ openScan? t.world.lines ≠ none)
      (Session.Settles past ties) s := by
  simp only [transcribed, Call.ends_bind, ends_note]
  exact ends_openScan (hs.orderly.asked _) (hs.goesOn.trans (List.suffix_cons _ _)) rfl

/-- Whatever is asked, the client is tied when the call comes to an end. -/
theorem ends_transcribed (hdb : db.Sustains ties) (c : SourceCall)
    (hs : s.Tied past ties (openScan? s.world.lines)) :
    ((r.transcribed db allowance).ask c).Ends
      (fun _ t => t.Tied past ties (openScan? t.world.lines))
      (Session.Settles past ties) s := by
  cases c with
  | openScan selection start root => exact (ends_askOpen hs).imp fun _ _ ht => ht.1
  | fetch count =>
    exact (ends_fetch hdb (r.excuses_true db ties) (fun _ => trivial) count hs).mono
      (fun _ _ ht => ht.asked_tied) fun _ _ ht => ht.1.settles
  | closeScan =>
    refine (ends_askClose hs).mono (fun _ t ht => ht.asked_tied) ?_
    rintro _ t ⟨rfl, ht⟩
    exact ⟨ht, fun h => by cases h⟩
  | probe entity =>
    exact (ends_askProbe hdb entity hs).mono (fun _ _ ht => ht.1.asked_tied)
      fun _ _ ht => ht.1.settles
  | enrich aggregate ids =>
    have hs' := hs.after_asked (c := .enrich aggregate ids) rfl rfl
    simp only [transcribed, source, Call.ends_bind, ends_note]
    split
    · exact hs'.asked_tied
    · exact (ends_retrying (fun t ht => ends_enrichOnce hdb aggregate ids ht) hs').mono
        (fun _ _ ht => ht.asked_tied) fun _ _ ht => ht.1.settles
  | ping =>
    simp only [transcribed, source, Call.ends_bind, ends_note]
    exact (ends_dropping_tied (ends_ping hdb (hs.after_asked rfl rfl))).mono
      (fun _ _ ht => ht.asked_tied) fun _ _ ht => ht.settles

/-- The client stays tied through any calls. -/
theorem tied_of_reaches (hdb : db.Sustains ties) {w : ω}
    (hs : (r.transcribed db allowance).Reaches (.start w) s) :
    s.Tied [] ties (openScan? s.world.lines) := by
  induction hs with
  | start => exact .start w
  | answered _ hask ih => exact (ends_transcribed hdb _ ih).of_ok hask
  | failed _ hask ih => exact ((ends_transcribed hdb _ ih).of_error hask).2 rfl

/-- Whatever comes of a call after any others, its lines are in order. -/
theorem isOrderly_of_reaches {w : ω} (hs : (r.transcribed db allowance).Reaches (.start w) s)
    {c : SourceCall} {o : Outcome SourceError c.Answer} {t : Session (Transcribed ω)}
    (hask : (r.transcribed db allowance).ask c s = (o, t)) : IsOrderly t.world.lines := by
  have hends : ((r.transcribed db allowance).ask c).Ends (fun _ t => IsOrderly t.world.lines)
      (fun _ t => IsOrderly t.world.lines) s :=
    (ends_transcribed db.sustains_true c (tied_of_reaches db.sustains_true hs)).mono
      (fun _ _ ht => ht.orderly) fun _ _ ht => ht.1
  have hleft := hends.left
  rwa [hask] at hleft

end

end RelationalSource

end CatalogSync
