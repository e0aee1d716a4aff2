import CatalogSync.Proofs.Call.Retry
import CatalogSync.Proofs.Session.Steps

/-!
# How the calls of a client end

Whatever the database answers and whenever it is lost, every call on the source keeps the client
aligned with the transcript and backed by it.
-/

namespace CatalogSync

open Transcript

variable {φ ω α : Type}

namespace RelationalSource

/-- Why no connection can be made. -/
inductive CannotConnect (r : RelationalSource φ) (db : Database ω) : SourceError → Prop
  | address {fault : AddressFault} (h : DatabaseAddress.resolve r.address = .error fault) :
    CannotConnect r db fault.toSourceError
  | unreachable : CannotConnect r db Refusal.unreachable.toSourceError
  | refused {endpoint : Endpoint} {w w' : ω} {e : Refusal}
    (h : db.connect endpoint w = (.error e, w')) : CannotConnect r db e.toSourceError

/-- No connection was made: nothing is written down, and the session is as it was. -/
def FailsToConnect (r : RelationalSource φ) (db : Database ω) (ties : ω → ω → Prop)
    (w : Transcribed ω) (e : Option Refusal) (w' : Transcribed ω) : Prop :=
  w'.lines = w.lines ∧ ∀ refusal, e = some refusal →
    r.CannotConnect db refusal.toSourceError ∧ ∀ left, ties left w.world → ties left w'.world

/-- Endpoints that are tried in vain, one after the other, leave the session as it was. -/
theorem FailsToConnect.trans {r : RelationalSource φ} {db : Database ω} {ties : ω → ω → Prop}
    {w w' w'' : Transcribed ω} {e : Refusal} {e' : Option Refusal}
    (h : r.FailsToConnect db ties w (some e) w') (h' : r.FailsToConnect db ties w' e' w'') :
    r.FailsToConnect db ties w e' w'' := by
  refine ⟨h'.1.trans h.1, fun refusal he => ⟨(h'.2 refusal he).1, fun left hleft => ?_⟩⟩
  exact (h'.2 refusal he).2 left ((h.2 e rfl).2 left hleft)

/-- The errors that fetching may meet are excused, except where no cursor is declared. -/
structure Excuses (r : RelationalSource φ) (db : Database ω) (ties : ω → ω → Prop)
    (excused : SourceError → Prop) : Prop where
  connecting : ∀ e, r.CannotConnect db e → excused e
  refusing : ∀ s w e w', db.run s w = (.error e, w') →
    excused e.toSourceError ∨ (∃ count, s = .fetch count) ∧ ∀ left, ¬ties left w
  reading : ∀ count w rows w' e, db.run (.fetch count) w = (.ok rows, w') →
    List.mapM ScanRow.changeRow rows = .error e → excused e

/-- Everything may be excused. -/
theorem excuses_true (r : RelationalSource φ) (db : Database ω) (ties : ω → ω → Prop) :
    r.Excuses db ties fun _ => True where
  connecting _ _ := trivial
  refusing _ _ _ _ _ := .inl trivial
  reading _ _ _ _ _ _ _ := trivial

section

variable {db : Database ω} {F : Option SourceError → Session ω → Prop} {s : Session ω}

/-- Looking at the client changes nothing. -/
@[simp] theorem ends_client? {A : DatabaseClient → Session ω → Prop} :
    client?.Ends A F s ↔ A s.client s := Iff.rfl

/-- A change to the scan leaves the connection and the world. -/
@[simp] theorem ends_updateScan {A : Unit → Session ω → Prop} {f : OpenScan → OpenScan} :
    (updateScan f).Ends A F s ↔
      A () { s with client := { s.client with scan := s.client.scan.map f } } := Iff.rfl

/-- The next endpoint is tried where one is not connected to. -/
theorem ends_connectAny_cons {endpoint : Endpoint} {rest : List Endpoint} {refusal : Refusal}
    {A : Unit → ω → Prop} {F : Option Refusal → ω → Prop} {w : ω} :
    (db.connectAny refusal (endpoint :: rest)).Ends A F w ↔
      (db.connect endpoint).Ends A
        (fun e w' => e.elim (F none w') fun e => (db.connectAny e rest).Ends A F w') w := by
  rcases h : db.connect endpoint w with ⟨_ | e | _, w'⟩ <;>
    simp only [Call.Ends, Database.connectAny, h, Option.elim_some, Option.elim_none]

/-- A statement ends as the database answers it. -/
theorem ends_send {st : Statement} {A : st.Answer → Session ω → Prop} :
    (run db st).Ends A F s ↔ (db.run st).Ends (fun a w => A a { s with world := w })
      (fun e w => F (e.map Refusal.toSourceError) { s with world := w }) s.world := by
  unfold run outside
  rw [Call.ends_within, Call.ends_mapError]

/-- A call whose failure is passed over fails only by not finishing. -/
@[simp] theorem ends_ignoring {c : Call SourceError (Session ω) Unit}
    {A : Unit → Session ω → Prop} :
    (ignoring c).Ends A F s ↔ c.Ends A (fun e t => e.elim (F none t) fun _ => A () t) s := by
  unfold ignoring
  rcases h : c s with ⟨_ | e | _, t⟩ <;> simp [Call.Ends, h]

/-- A call that fails in passing gives up its connection. -/
@[simp] theorem ends_dropping {c : Call SourceError (Session ω) α} {A : α → Session ω → Prop} :
    (dropping db c).Ends A F s ↔ c.Ends A
      (fun e t => F e (if e.any (·.isTransient) then dropConnection db t else t)) s := by
  unfold dropping
  rcases h : c s with ⟨a | e | _, t⟩ <;> simp [Call.Ends, h]

/-- A declaration that is refused is rolled back, whatever comes of it. -/
theorem ends_sendDeclaration {held : OpenScan} {A : Unit → Session ω → Prop} :
    (runDeclaration db held).Ends A F s ↔
      (db.run (declaration held)).Ends (fun _ w => A () { s with world := w })
        (fun e w => e.elim (F none { s with world := w }) fun e =>
          (ignoring (run db .rollback)).Ends (fun _ => F (some e.toSourceError)) F
            { s with world := w }) s.world := by
  rcases h : db.run (declaration held) s.world with ⟨a | e | _, w⟩
  · simp [Call.Ends, runDeclaration, h]
  · have hbind : (runDeclaration db held).Ends A F s ↔
        (do
          ignoring (run db .rollback)
          Call.fail e.toSourceError : Call SourceError _ Unit).Ends A F { s with world := w } := by
      simp only [Call.Ends, runDeclaration, h]
    rw [hbind, Call.ends_bind, Call.ends_iff_of_error h]
    simp
  · simp [Call.Ends, runDeclaration, h]

end

section

variable {A : α → Session (Transcribed ω) → Prop}
  {F : Option SourceError → Session (Transcribed ω) → Prop} {s : Session (Transcribed ω)}

/-- Writing down a line leaves the client. -/
@[simp] theorem ends_note {A : Unit → Session (Transcribed ω) → Prop} {e : Exchange ω} :
    (note e).Ends A F s ↔ A () (s.noted e) := Iff.rfl

/-- A statement that is written down ends as the database answers it. -/
theorem ends_run {db : Database ω} {st : Statement}
    {A : st.Answer → Session (Transcribed ω) → Prop} :
    (run db.transcribed st).Ends A F s ↔
      (∀ a w, db.run st s.world.world = (.ok a, w) → A a (s.sent st (.ok ()) w)) ∧
      (∀ e w, db.run st s.world.world = (.error e, w) →
        F (some e.toSourceError) (s.sent st (.error e) w)) ∧
      ∀ w, db.run st s.world.world = (.unfinished, w) → F none (s.sent st .unfinished w) := by
  rw [ends_send]
  rcases h : db.run st s.world.world with ⟨a | e | _, w⟩ <;>
    simp [Call.Ends, Database.transcribed, h, Outcome.map, Session.sent]

/-- So does a declaration. -/
theorem ends_runDeclaration {db : Database ω} {held : OpenScan}
    {A : Unit → Session (Transcribed ω) → Prop} :
    (runDeclaration db.transcribed held).Ends A F s ↔
      (∀ a w, db.run (declaration held) s.world.world = (.ok a, w) →
        A () (s.sent (declaration held) (.ok ()) w)) ∧
      (∀ e w, db.run (declaration held) s.world.world = (.error e, w) →
        (ignoring (run db.transcribed .rollback)).Ends (fun _ => F (some e.toSourceError)) F
          (s.sent (declaration held) (.error e) w)) ∧
      ∀ w, db.run (declaration held) s.world.world = (.unfinished, w) →
        F none (s.sent (declaration held) .unfinished w) := by
  rw [ends_sendDeclaration]
  rcases h : db.run (declaration held) s.world.world with ⟨a | e | _, w⟩ <;>
    simp [Call.Ends, Database.transcribed, h, Outcome.map, Session.sent]

end

section

variable {r : RelationalSource φ} {db : Database ω} {past : Transcript ω}
  {ties : ω → ω → Prop} {excused : SourceError → Prop} {scan : Option OpenScan}
  {s : Session (Transcribed ω)}

/-- One attempt to connect is written down when it succeeds. -/
theorem ends_connect (r : RelationalSource φ) (hdb : db.Sustains ties) (endpoint : Endpoint)
    (w : Transcribed ω) :
    (db.transcribed.connect endpoint).Ends
      (fun _ w' => ∃ world, w' = ⟨world, .connected :: w.lines⟩)
      (r.FailsToConnect db ties w) w := by
  rcases h : db.connect endpoint w.world with ⟨_ | e | _, world⟩ <;>
    simp only [Call.Ends, Database.transcribed, h, FailsToConnect, Option.some.injEq, true_and,
      reduceCtorEq, false_implies, implies_true]
  · exact ⟨world, rfl⟩
  · rintro _ rfl
    exact ⟨.refused h, fun left hties => hdb.unreached endpoint left _ _ _ hties h⟩

/-- So are several, one after the other. -/
theorem ends_connectAny (hdb : db.Sustains ties) (endpoints : List Endpoint) {refusal : Refusal}
    (hrefusal : r.CannotConnect db refusal.toSourceError) (w : Transcribed ω) :
    (db.transcribed.connectAny refusal endpoints).Ends
      (fun _ w' => ∃ world, w' = ⟨world, .connected :: w.lines⟩)
      (r.FailsToConnect db ties w) w := by
  induction endpoints generalizing refusal w with
  | nil =>
    refine ⟨rfl, fun e he => ?_⟩
    cases he
    exact ⟨hrefusal, fun _ => id⟩
  | cons endpoint rest ih =>
    rw [ends_connectAny_cons]
    refine (r.ends_connect hdb endpoint w).mono (fun _ _ => id) ?_
    rintro (_ | e) w' hfirst
    · exact hfirst
    · have hrest := ih (hfirst.2 e rfl).1 w'
      rw [hfirst.1] at hrest
      exact hrest.mono (fun _ _ => id) fun _ _ => hfirst.trans

/-- Asking for the connection leaves the one that is there and is not known to be gone, or makes a
new one over which no scan counts as declared. -/
theorem ends_ensureConnection (hdb : db.Sustains ties) (he : r.Excuses db ties excused)
    (hs : s.Tied past ties scan) {A : Unit → Session (Transcribed ω) → Prop}
    (hsame : s.client.hasConnection = true → db.isClosed s.world.world = false → A () s)
    (hnew : (s.client.hasConnection = true → db.isClosed s.world.world = true) →
      ∀ w, A () ⟨s.client.reconnected true, ⟨w, .connected :: s.world.lines⟩⟩) :
    (r.ensureConnection db.transcribed).Ends A (Session.Fails past ties excused scan) s := by
  unfold Call.Ends ensureConnection
  by_cases husable : s.client.hasConnection && !db.transcribed.isClosed s.world
  · rw [if_pos husable]
    obtain ⟨hconnection, hopen⟩ := Bool.and_eq_true_iff.1 husable
    exact hsame hconnection (by simpa [Database.transcribed] using hopen)
  · rw [if_neg husable]
    have hclosed : s.client.hasConnection = true → db.isClosed s.world.world = true := by
      intro hconnection
      rw [hconnection, Bool.true_and, Bool.not_eq_true, Bool.not_eq_false'] at husable
      exact husable
    rcases haddress : DatabaseAddress.resolve r.address with fault | endpoints
    · exact ⟨hs.toAligned, fun _ => hs.backed, .inl (he.connecting _ (.address haddress))⟩
    · have hconnect := ends_connectAny (r := r) hdb endpoints .unreachable s.world
      change (connect db.transcribed endpoints).Ends A (Session.Fails past ties excused scan) s
      unfold connect outside
      rw [Call.ends_bind, Call.ends_within, Call.ends_mapError]
      refine hconnect.mono (fun _ w hw => ?_) fun e w hw => ?_
      · obtain ⟨world, rfl⟩ := hw
        exact hnew hclosed world
      · obtain ⟨hlines, herror⟩ := hw
        cases e with
        | none =>
          change IsOrderly w.lines
          rw [hlines]
          exact hs.orderly
        | some e =>
          obtain ⟨hcannot, hties⟩ := herror e rfl
          have haligned : Session.Aligned past scan { s with world := w } :=
            ⟨hlines ▸ hs.orderly, hlines ▸ hs.goesOn, hlines ▸ hs.asked, hs.held⟩
          refine ⟨haligned, fun _ held hheld hdeclared => ?_, .inl (he.connecting _ hcannot)⟩
          obtain ⟨hconnection, left, huse, hleft⟩ := hs.backed held hheld hdeclared
          exact ⟨hconnection, left, hlines ▸ huse, hties left hleft⟩

/-- A statement that reads keeps the client tied. -/
theorem ends_read (hdb : db.Sustains ties) {st : Statement} (hst : st.Reads)
    (hs : s.Tied past ties scan) (hadmits : ∀ o w, Admits s.world.lines (.sent st o w))
    (hexcused : ∀ e w, db.run st s.world.world = (.error e, w) →
      excused e.toSourceError ∨ isBare (.sent st (.error e) w :: s.world.lines))
    {A : st.Answer → Session (Transcribed ω) → Prop}
    (hA : ∀ a w, db.run st s.world.world = (.ok a, w) → (s.sent st (.ok ()) w).Tied past ties scan →
      A a (s.sent st (.ok ()) w)) :
    (run db.transcribed st).Ends A (Session.Fails past ties excused scan) s := by
  refine ends_run.2 ⟨fun a w hrun => ?_, fun e w hrun => ?_, fun w _ => ?_⟩
  · exact hA a w hrun (hs.reads hdb hst hrun (hadmits _ _))
  · exact hs.fails hdb hst hrun (hadmits _ _) (hexcused e w hrun)
  · exact isOrderly_cons.2 ⟨hadmits _ _, hs.orderly⟩

/-- A client that counts no scan as declared is backed by anything. -/
theorem backed_of_undeclared {held : OpenScan} (hheld : s.client.scan = some held)
    (hundeclared : held.isDeclared = false) : s.Backed ties := by
  intro other hother hdeclared
  rw [hheld, Option.mem_some_iff] at hother
  rw [← hother, hundeclared] at hdeclared
  cases hdeclared

/-- What is sent for a scan outside of any declaration fails with an excuse. -/
theorem fails_of_undeclared (he : r.Excuses db ties excused) {held : OpenScan} {st : Statement}
    {e : Refusal} {w w' : ω} (hs : s.Aligned past scan) (hheld : s.client.scan = some held)
    (hundeclared : held.isDeclared = false) (hrun : db.run st w = (.error e, w'))
    (hst : ∀ count, st ≠ .fetch count) :
    Session.Fails past ties excused scan (some e.toSourceError) s := by
  refine ⟨hs, fun _ => backed_of_undeclared hheld hundeclared, .inl ?_⟩
  rcases he.refusing st w e w' hrun with hexcused | ⟨⟨count, rfl⟩, -⟩
  · exact hexcused
  · exact absurd rfl (hst count)

/-- The cursor of a scan is declared in the transaction that was begun for it. -/
theorem ends_declaration (hdb : db.Sustains ties) (he : r.Excuses db ties excused)
    {held : OpenScan} (hs : s.Aligned past scan) (hheld : s.client.scan = some held)
    (hundeclared : held.isDeclared = false) (hconnection : s.client.hasConnection = true)
    (huse : sessionUse s.world.lines = .transaction) :
    (runDeclaration db.transcribed held).Ends
      (fun _ t => (updateScan fun scan => { scan with isDeclared := true }).Ends
        (fun _ t => t.Tied past ties scan ∧ t.client.scan = some { held with isDeclared := true })
        (Session.Fails past ties excused scan) t)
      (Session.Fails past ties excused scan) s := by
  have hasked : openScan? s.world.lines = some held.undeclared := by
    rw [hs.asked, ← hs.held, hheld, Option.map_some]
  have hsent : ∀ o w, (s.sent (declaration held) o w).Aligned past scan := fun o w =>
    hs.sent ⟨huse, held.undeclared, hasked, rfl⟩
  refine ends_runDeclaration.2 ⟨fun _ w hrun => ?_, fun e w hrun => ?_, fun w _ => ?_⟩
  · have hscan : (s.sent (declaration held) (.ok ()) w).client.scan.map
        (fun scan => { scan with isDeclared := true }) = some { held with isDeclared := true } := by
      rw [Session.sent_client, hheld, Option.map_some]
    refine ⟨⟨⟨(hsent _ w).orderly, (hsent _ w).goesOn, (hsent _ w).asked, ?_⟩, ?_⟩, hscan⟩
    · change (Option.map _ _).map _ = _
      rw [hscan, ← hs.held, hheld]
      rfl
    · intro other _ _
      refine ⟨hconnection, w, ?_, hdb.declares _ _ _ _ _ hrun⟩
      simp [declaration, sessionUse, SessionUse.after, SessionUse.afterSent, huse]
  · have hfails : ∀ o w', Session.Fails past ties excused scan (some e.toSourceError)
        ((s.sent (declaration held) (.error e) w).sent .rollback o w') := fun o w' =>
      fails_of_undeclared he ((hsent _ w).controls .rollback _ _) hheld hundeclared hrun
        fun _ h => by cases h
    rw [ends_ignoring]
    refine ends_run.2 ⟨fun _ w' _ => hfails _ w', fun _ w' _ => hfails _ w', fun w' _ => ?_⟩
    exact ((hsent _ w).controls .rollback _ w').orderly
  · exact (hsent _ w).orderly

/-- A scan is declared over whatever connection there is, from where it stands. -/
theorem ends_declare (hdb : db.Sustains ties) (he : r.Excuses db ties excused) {held : OpenScan}
    (hs : s.Tied past ties scan) (hheld : s.client.scan = some held)
    (hundeclared : held.isDeclared = false) :
    (r.declare db.transcribed held).Ends
      (fun _ t => t.Tied past ties scan ∧ t.client.scan = some { held with isDeclared := true })
      (Session.Fails past ties excused scan) s := by
  have hbegin : ∀ t : Session (Transcribed ω), t.Aligned past scan → t.client.scan = some held →
      t.client.hasConnection = true →
      (run db.transcribed .beginTransaction).Ends
        (fun _ t => (runDeclaration db.transcribed held).Ends
          (fun _ t => (updateScan fun scan => { scan with isDeclared := true }).Ends
            (fun _ t => t.Tied past ties scan ∧
              t.client.scan = some { held with isDeclared := true })
            (Session.Fails past ties excused scan) t)
          (Session.Fails past ties excused scan) t)
        (Session.Fails past ties excused scan) t := by
    intro t ht hheld hconnection
    have hbegun : ∀ o w, (t.sent .beginTransaction o w).Aligned past scan :=
      ht.controls .beginTransaction
    refine ends_run.2 ⟨fun _ w _ => ?_, fun e w hrun => ?_, fun w _ => (hbegun _ w).orderly⟩
    · exact ends_declaration hdb he (hbegun _ w) hheld hundeclared hconnection rfl
    · exact fails_of_undeclared he (hbegun _ w) hheld hundeclared hrun fun _ h => by cases h
  simp only [declare, Call.ends_bind]
  refine ends_ensureConnection hdb he hs
    (fun hconnection _ => hbegin s hs.toAligned hheld hconnection)
    fun _ w => ?_
  have hconnected : Session.Tied past ties scan
      ⟨s.client.reconnected true, ⟨w, .connected :: s.world.lines⟩⟩ := hs.toAligned.connected w
  refine hbegin _ hconnected.toAligned ?_ rfl
  rw [DatabaseClient.reconnected, hheld, Option.map_some, ← hundeclared]

/-- Rows may be fetched: the client's scan counts as declared, or the connection was made to fetch
them. -/
def CanFetch (s : Session (Transcribed ω)) : Prop :=
  isBare s.world.lines ∨ ∃ held ∈ s.client.scan, held.isDeclared = true

/-- Where rows may be fetched, the transcript admits it. -/
theorem CanFetch.admits (h : CanFetch s) (hs : s.Tied past ties scan) (count : Nat)
    (o : Outcome Refusal Unit) (w : ω) : Admits s.world.lines (.sent (.fetch count) o w) := by
  rcases h with hbare | ⟨held, hheld, hdeclared⟩
  · exact .inl hbare
  · obtain ⟨-, left, huse, -⟩ := hs.backed held hheld hdeclared
    exact .inr ⟨left, huse⟩

/-- Over a connection that was there all the time a refusal to fetch is excused. -/
theorem CanFetch.isExcused (h : CanFetch s) (hs : s.Tied past ties scan)
    (he : r.Excuses db ties excused) {count : Nat} {e : Refusal} {w : ω}
    (hrun : db.run (.fetch count) s.world.world = (.error e, w)) :
    excused e.toSourceError ∨ isBare (.sent (.fetch count) (.error e) w :: s.world.lines) := by
  rcases he.refusing _ _ _ _ hrun with hexcused | ⟨-, hties⟩
  · exact .inl hexcused
  · rcases h with hbare | ⟨held, hheld, hdeclared⟩
    · exact .inr hbare
    · obtain ⟨-, left, -, hleft⟩ := hs.backed held hheld hdeclared
      exact absurd hleft (hties left)

/-- A page is filled from where rows may be fetched. -/
theorem ends_fill (hdb : db.Sustains ties) (he : r.Excuses db ties excused) (allowance : Nat)
    {page : PageFill} (hs : s.Tied past ties scan) (hcan : CanFetch s) :
    (r.fill db.transcribed allowance page).Ends (fun _ t => t.Tied past ties scan)
      (Session.Fails past ties excused scan) s := by
  induction allowance generalizing s page with
  | zero => exact hs.orderly
  | succ allowance ih =>
    unfold fill
    rcases page.want? with _ | want
    · exact hs
    · have hfetch : ∀ t : Session (Transcribed ω), t.Tied past ties scan → CanFetch t →
          (run db.transcribed (.fetch want)).Ends (fun rows t => (do
            r.fill db.transcribed allowance
              (page.take want (← Call.ofExcept (List.mapM ScanRow.changeRow rows)))).Ends
            (fun _ t => t.Tied past ties scan) (Session.Fails past ties excused scan) t)
          (Session.Fails past ties excused scan) t := by
        intro t ht hcan
        refine ends_read hdb (.fetch want) ht (hcan.admits ht want)
          (fun e w hrun => hcan.isExcused ht he hrun) fun rows w hrun ht' => ?_
        rw [Call.ends_bind, Call.ends_ofExcept]
        rcases hrows : List.mapM ScanRow.changeRow rows with e | rows'
        · exact ⟨ht'.toAligned, fun _ => ht'.backed, .inl (he.reading _ _ _ _ _ hrun hrows)⟩
        · exact ih ht' hcan
      simp only [ask, Call.ends_bind]
      refine ends_ensureConnection hdb he hs (fun _ _ => ?_) fun _ w => ?_
      · simpa only [Call.ends_bind] using hfetch s hs hcan
      · simpa only [Call.ends_bind] using hfetch _ (hs.toAligned.connected w) (.inl rfl)

end

end RelationalSource

end CatalogSync
