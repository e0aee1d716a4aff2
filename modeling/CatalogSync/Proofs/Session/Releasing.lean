import CatalogSync.Proofs.Extract.Turns
import CatalogSync.Proofs.Session.Attempts
import CatalogSync.Proofs.Session.Transactions

/-!
# How transactions are released

Whatever is asked of a source leaves its client tidy, however it ends: a transaction is open only
for the declared scan. So it is enough that this scan is released. Closing a scan and opening one do
so, whatever their statements are answered.
-/

namespace CatalogSync

open SessionState Session

namespace Database.Transacts

open RelationalSource

variable {φ ω α : Type} {r : RelationalSource φ} {db : Database ω} {state : ω → SessionState}
  {s : Session (Watched ω)} {st : Statement}

/-- A statement that is written down moves the session by its answer, or the session is lost. -/
theorem ends_sent (hdb : db.Transacts state) {w : Watched ω} {A : st.Answer → Watched ω → Prop}
    {F : Option Refusal → Watched ω → Prop}
    (hanswered : ∀ a w', (state w').IsOrGone ((state w.world).after st true) →
      A a ⟨w', ⟨st, state w.world, state w'⟩ :: w.sendings⟩)
    (hrefused : ∀ e w', (state w').IsOrGone ((state w.world).after st false) →
      F (some e) ⟨w', ⟨st, state w.world, state w'⟩ :: w.sendings⟩) :
    ((db.watched state).run st).Ends A F w := by
  rcases h : db.run st w.world with ⟨a | e | _, w'⟩ <;>
    simp only [Call.Ends, Database.watched, h]
  · exact hanswered a w' (hdb.answered st _ a w' h)
  · exact hrefused e w' (hdb.refused st _ e w' h)
  · exact absurd h (hdb.ends st _ w')

/-- A statement moves the state of its session as its answer says, or the session is gone. -/
theorem ends_run (hdb : db.Transacts state) {A : st.Answer → Session (Watched ω) → Prop}
    {F : Option SourceError → Session (Watched ω) → Prop}
    (hanswered : ∀ a w, (state w).IsOrGone ((state s.world.world).after st true) →
      A a (s.behind state st w))
    (hrefused : ∀ e w, (state w).IsOrGone ((state s.world.world).after st false) →
      F (some e) (s.behind state st w)) :
    (RelationalSource.run (db.watched state) st).Ends A F s :=
  ends_send.2 (hdb.ends_sent hanswered fun e => hrefused e.toSourceError)

/-- What only reads keeps the client tidy. -/
theorem keeps_read (hdb : db.Transacts state) (hst : st.Reads) :
    (RelationalSource.run (db.watched state) st).Keeps (Session.IsTidy state) :=
  Call.keeps_of_ends fun _ hs =>
    hdb.ends_run (fun _ _ hw => hs.read hst hw) fun _ _ hw => hs.read hst hw

/-- After COMMIT or ROLLBACK no transaction is open, whatever the answer. -/
theorem ends_ending (hdb : db.Transacts state) (hst : st = .commit ∨ st = .rollback)
    (hs : s.IsProper state) :
    (RelationalSource.run (db.watched state) st).Ends (fun _ t => t.HasEnded state s.client)
      (fun e t => e ≠ none ∧ t.HasEnded state s.client) s :=
  hdb.ends_run (fun _ _ hw => hs.ending hst hw)
    fun _ _ hw => ⟨Option.some_ne_none _, hs.ending hst hw⟩

/-- A call that comes to an end is answered when its failure is passed over. -/
theorem ends_ignoring_of_ends {c : Call SourceError (Session (Watched ω)) Unit}
    {P : Session (Watched ω) → Prop} (hc : c.Ends (fun _ => P) (fun e t => e ≠ none ∧ P t) s) :
    (ignoring c).Ends (fun _ => P) (fun _ _ => False) s := by
  rw [ends_ignoring]
  refine hc.mono (fun _ _ => id) ?_
  rintro (_ | e) t ⟨he, ht⟩
  · exact he rfl
  · exact ht

/-- Connecting makes a session without a transaction, or leaves the one before as it was. -/
theorem ends_connectAny (hdb : db.Transacts state) (endpoints : List Endpoint) (refusal : Refusal)
    (w : Watched ω) :
    ((db.watched state).connectAny refusal endpoints).Ends
      (fun _ w' => w'.sendings = w.sendings ∧ (state w'.world).IsOrGone .idle)
      (fun _ w' => w'.sendings = w.sendings ∧ (state w'.world).IsOrGone (state w.world)) w := by
  induction endpoints generalizing refusal w with
  | nil => exact ⟨rfl, .inl rfl⟩
  | cons endpoint rest ih =>
    have hpart : (db.watched state).connect endpoint =
        (db.connect endpoint).within Watched.world fun world w => { w with world } := rfl
    rw [ends_connectAny_cons, hpart, Call.ends_within]
    refine Call.ends_iff.2 ⟨fun _ w' h => ?_, fun e w' h => ?_, fun w' h => ?_⟩
    · exact ⟨rfl, hdb.connects endpoint _ w' h⟩
    · have hkept := hdb.unreached endpoint _ e w' h
      rw [Option.elim_some]
      exact (ih e { w with world := w' }).mono (fun _ _ => id) fun _ _ ht =>
        ⟨ht.1, ht.2.trans hkept⟩
    · exact absurd h (hdb.connectEnds endpoint _ w')

/-- A connection is made in place of one that holds no transaction any more. -/
theorem ends_ensureConnection (hdb : db.Transacts state) (hs : s.IsTidy state)
    {A : Unit → Session (Watched ω) → Prop}
    (hsame : s.IsConnected (db.watched state) → A () s)
    (hnew : ∀ w, Session.IsTidy state ⟨s.client.reconnected true, w⟩ →
      A () ⟨s.client.reconnected true, w⟩) :
    (r.ensureConnection (db.watched state)).Ends A (fun _ t => t.IsTidy state) s := by
  by_cases husable : s.IsConnected (db.watched state)
  · exact (Serves.ends_ensureConnection_of_isConnected husable).2 (hsame husable)
  · have hgone := Serves.ensureConnection_of_not_isConnected (r := r) husable
    rcases haddress : DatabaseAddress.resolve r.address with fault | endpoints <;>
      rw [haddress] at hgone
    · exact (Call.ends_iff_of_error hgone).2 hs
    · have hconnect : r.ensureConnection (db.watched state) s =
          RelationalSource.connect (db.watched state) endpoints s := hgone
      rw [Call.ends_congr hconnect, RelationalSource.connect, outside, Call.ends_bind,
        Call.ends_within, Call.ends_mapError]
      refine (hdb.ends_connectAny endpoints .unreachable s.world).mono (fun _ w hw => ?_)
        fun _ w hw => hs.moved hw.1 hw.2
      exact hnew w (hs.renewed hw.1 fun hsome => hw.2.hasTransaction hsome)

/-- Giving up the connection gives up its transaction. -/
theorem isTidy_dropConnection (hdb : db.Transacts state) (hs : s.IsTidy state) :
    (dropConnection (db.watched state) s).IsTidy state := by
  refine hs.renewed rfl ?_
  have hgone : state (db.disconnect s.world.world) = .gone := hdb.disconnects _
  change ¬(state (db.disconnect s.world.world)).HasTransaction
  rw [hgone]
  exact id

/-- Reading over a connection of whatever age leaves no more open than there was. -/
theorem keeps_ask (hdb : db.Transacts state) (hst : st.Reads) :
    (r.ask (db.watched state) st).Keeps (Session.IsTidy state) := by
  refine Call.keeps_of_ends fun s hs => ?_
  rw [ask, Call.ends_bind]
  exact hdb.ends_ensureConnection hs (fun _ => (hdb.keeps_read hst).ends hs) fun _ ht =>
    (hdb.keeps_read hst).ends ht

/-- A declaration in a transaction without a cursor leaves that one cursor, or no transaction. -/
theorem ends_runDeclaration (hdb : db.Transacts state) (hs : s.IsProper state)
    (hnone : (state s.world.world).cursors = 0) (held : OpenScan) :
    (runDeclaration (db.watched state) held).Ends
      (fun _ t => t.client = s.client ∧ t.IsProper state) (fun _ t => t.IsTidy state) s := by
  have hsent {isAnswered : Bool} {w : ω}
      (hw : (state w).IsOrGone ((state s.world.world).after (declaration held) isAnswered)) :
      (s.behind state (declaration held) w).IsProper state := by
    refine hs.behind (fun hbegin => Statement.noConfusion hbegin) (hw.cursors_le.trans ?_)
    have hle := (cursors_after_le_succ trivial :
      ((state s.world.world).after (declaration held) isAnswered).cursors ≤ _)
    rwa [hnone] at hle
  rw [ends_sendDeclaration]
  refine hdb.ends_sent (fun _ _ hw => ⟨rfl, hsent hw⟩) fun e w hw => ?_
  have hrolled := ends_ignoring_of_ends (hdb.ends_ending (.inr rfl) (hsent hw))
  rw [Option.elim_some]
  exact hrolled.mono (fun _ _ ht => ht.tidy) fun _ _ => False.elim

/-- Where the scan is not declared, a transaction is begun outside of any other. -/
theorem ends_declareOver (hdb : db.Transacts state) (hs : s.IsTidy state)
    (hconnection : s.client.hasConnection = true) {held : OpenScan}
    (hheld : s.client.scan = some held) (hundeclared : held.isDeclared = false) :
    (do
      RelationalSource.run (db.watched state) .beginTransaction
      runDeclaration (db.watched state) held
      updateScan fun scan => { scan with isDeclared := true } : Call SourceError _ Unit).Ends
      (fun _ t => t.IsTidy state) (fun _ t => t.IsTidy state) s := by
  have hended : ¬(state s.world.world).HasTransaction := hs.ended (by simp [hheld, hundeclared])
  have hbegun {isAnswered : Bool} {w : ω}
      (hw : (state w).IsOrGone ((state s.world.world).after .beginTransaction isAnswered)) :
      (state w).cursors = 0 ∧ (s.behind state .beginTransaction w).IsProper state := by
    have hle := hw.cursors_le.trans (cursors_after_le id)
    rw [cursors_eq_zero hended] at hle
    exact ⟨Nat.le_zero.1 hle, hs.behind (fun _ => hended) (hle.trans (Nat.zero_le _))⟩
  rw [Call.ends_bind]
  refine hdb.ends_run (fun _ w hw => ?_) fun _ w hw => ?_
  · rw [Call.ends_bind]
    refine (hdb.ends_runDeclaration (hbegun hw).2 (hbegun hw).1 held).imp fun _ t ht => ?_
    obtain ⟨hclient, ht⟩ := ht
    have hsame : t.client = s.client := hclient
    exact ⟨⟨ht.sendings, ht.cursors⟩, fun _ => ⟨by simp [hsame, hconnection],
      by simp [hsame, hheld]⟩⟩
  · exact (hbegun hw).2.tidy fun hsome =>
      not_hasTransaction_of_refused hended (hw.hasTransaction hsome)

/-- So it is declared in a transaction of its own. -/
theorem ends_declare (hdb : db.Transacts state) (hs : s.IsTidy state) {held : OpenScan}
    (hheld : s.client.scan = some held) (hundeclared : held.isDeclared = false) :
    (r.declare (db.watched state) held).Ends
      (fun _ t => t.IsTidy state) (fun _ t => t.IsTidy state) s := by
  rw [declare, Call.ends_bind]
  refine hdb.ends_ensureConnection hs (fun husable => ?_) fun w ht => ?_
  · exact hdb.ends_declareOver hs (Bool.and_eq_true_iff.1 husable).1 hheld hundeclared
  · have hkept : (s.client.reconnected true).scan = some held := by
      rw [DatabaseClient.reconnected, hheld, Option.map_some, ← hundeclared]
    exact hdb.ends_declareOver ht rfl hkept hundeclared

/-- Filling a page reads, and nothing else. -/
theorem keeps_fill (hdb : db.Transacts state) (allowance : Nat) (page : PageFill) :
    (r.fill (db.watched state) allowance page).Keeps (Session.IsTidy state) := by
  induction allowance generalizing page with
  | zero => exact fun _ => id
  | succ allowance ih =>
    unfold fill
    split
    · exact Call.keeps_pure
    · exact (hdb.keeps_ask (.fetch _)).bind fun _ => Call.keeps_ofExcept.bind fun _ => ih _

/-- A page that is filled moves the scan and leaves it declared. -/
theorem keeps_page (hdb : db.Transacts state) (allowance : Nat) (page : PageFill) :
    (do
      let rows ← r.fill (db.watched state) allowance page
      updateScan fun scan => { scan with last := rows.getLast? <|> scan.last }
      return rows : Call SourceError _ (List ChangeRow)).Keeps (Session.IsTidy state) := by
  refine (hdb.keeps_fill allowance page).bind fun rows => Call.keeps_of_ends fun s hs => ?_
  refine hs.rescanned fun hdeclared => ?_
  rwa [Option.any_map]

/-- Fetching declares the scan only where it is not declared. -/
theorem keeps_fetchOnce (hdb : db.Transacts state) (allowance count : Nat) :
    (r.fetchOnce (db.watched state) allowance count).Keeps (Session.IsTidy state) := by
  refine Call.keeps_of_ends fun s hs => ?_
  rw [fetchOnce, Call.ends_bind, ends_client?]
  rcases hheld : s.client.scan with _ | held
  · exact hs
  · have hpage := hdb.keeps_page (r := r) allowance (.start count held.last)
    rcases hdeclared : held.isDeclared
    · simp only [hdeclared, Bool.not_false, if_true]
      rw [Call.ends_bind]
      exact (hdb.ends_declare hs hheld hdeclared).imp fun _ t ht => hpage.ends ht
    · simp only [hdeclared, Bool.not_true, Bool.false_eq_true, if_false]
      exact hpage.ends hs

/-- A probe reads, if it sends anything. -/
theorem keeps_probeOnce (hdb : db.Transacts state) (entity : Entity) :
    (r.probeOnce (db.watched state) entity).Keeps (Session.IsTidy state) := by
  have hclient : (client? : Call SourceError (Session (Watched ω)) DatabaseClient).Keeps
      (Session.IsTidy state) := fun _ => id
  refine hclient.bind fun c => ?_
  split
  · exact Call.keeps_pure
  · exact (hdb.keeps_ask (.probe entity)).bind fun _ => Call.keeps_ofExcept

/-- Asking for aggregates reads. -/
theorem keeps_enrichOnce (hdb : db.Transacts state) (aggregate : Aggregate) (ids : List String) :
    (r.enrichOnce (db.watched state) aggregate ids).Keeps (Session.IsTidy state) :=
  (hdb.keeps_ask (.enrich aggregate ids)).bind fun _ => Call.keeps_ofExcept

/-- A sign of life reads. -/
theorem keeps_ping (hdb : db.Transacts state) :
    (r.ping (db.watched state)).Keeps (Session.IsTidy state) := by
  refine (hdb.keeps_ask .ping).bind fun rows => ?_
  split
  · exact Call.keeps_pure
  · exact Call.keeps_fail

/-- A connection that is given up leaves the client tidy. -/
theorem keeps_dropping (hdb : db.Transacts state) {c : Call SourceError (Session (Watched ω)) α}
    (hc : c.Keeps (Session.IsTidy state)) :
    (dropping (db.watched state) c).Keeps (Session.IsTidy state) := by
  refine Call.keeps_of_ends fun s hs => ?_
  rw [ends_dropping]
  refine (hc.ends hs).mono (fun _ _ => id) fun e t ht => ?_
  split
  · exact hdb.isTidy_dropConnection ht
  · exact ht

/-- So do repeated attempts each of which does. -/
theorem keeps_retrying [Growth φ] (hdb : db.Transacts state) {operation : String} {allowance : Nat}
    {attempt : Call SourceError (Session (Watched ω)) α}
    (hattempt : attempt.Keeps (Session.IsTidy state)) :
    (r.retrying (db.watched state) operation allowance attempt).Keeps (Session.IsTidy state) :=
  Policy.keeps_retry (hdb.keeps_dropping hattempt)

/-- A scan is ended with its transaction, whatever becomes of its cursor. -/
theorem ends_endScan (hdb : db.Transacts state) (hs : s.IsProper state) :
    (endScan (db.watched state)).Ends (fun _ t => t.HasEnded state s.client)
      (fun _ _ => False) s := by
  rw [RelationalSource.ends_endScan]
  refine hdb.ends_run (fun _ w hw => ?_) fun e w hw => ?_
  · have hproper := hs.behind_of_ne Statement.noConfusion id hw
    exact ends_ignoring_of_ends (hdb.ends_ending (.inl rfl) hproper)
  · have hproper := hs.behind_of_ne Statement.noConfusion id hw
    exact ends_ignoring_of_ends (hdb.ends_ending (.inr rfl) hproper)

/-- Closing a scan always succeeds, and releases everything. -/
theorem ends_closeScan (hdb : db.Transacts state) (hs : s.IsTidy state) :
    (closeScan (db.watched state)).Ends (fun _ t => t.IsTidy state ∧ t.IsReleased state)
      (fun _ _ => False) s := by
  let released : Session (Watched ω) := { s with client := { s.client with scan := none } }
  have hproper : released.IsProper state := ⟨hs.sendings, hs.cursors⟩
  by_cases hdeclared : s.client.scan.any OpenScan.isDeclared && s.client.hasConnection &&
      !(db.watched state).isClosed s.world
  · have hclose : closeScan (db.watched state) s = endScan (db.watched state) released :=
      if_pos hdeclared
    refine (Call.ends_congr hclose).2 ((hdb.ends_endScan hproper).imp fun _ t ht => ⟨ht.tidy, ?_⟩)
    exact ⟨by rw [ht.client], ht.ended⟩
  · have hclose : closeScan (db.watched state) s = (.ok (), released) := if_neg hdeclared
    have hended : ¬(state s.world.world).HasTransaction := by
      intro hsome
      obtain ⟨hconnection, hscan⟩ := hs.backed hsome
      have hclosed : db.isClosed s.world.world = true := by
        simpa [hconnection, hscan, Database.watched, Database.within] using hdeclared
      rw [hdb.closed _ hclosed] at hsome
      exact hsome
    exact (Call.ends_iff_of_ok hclose).2 ⟨hproper.tidy hended, rfl, hended⟩

/-- Opening a scan releases the one before; the new one is not declared yet. -/
theorem ends_openScan (hdb : db.Transacts state) {selection : Selection} {start : Cursor}
    {root : Option Cursor} (hs : s.IsTidy state) :
    (openScan (db.watched state) selection start root).Ends
      (fun _ t => t.IsTidy state ∧ ¬(state t.world.world).HasTransaction ∧ t.client.scan =
        some ⟨selection, start.timestamp, root.map Cursor.timestamp, none, false⟩)
      (fun e t => e ≠ none ∧ t.IsTidy state ∧ t.IsReleased state) s := by
  rw [openScan, Call.ends_bind]
  refine (hdb.ends_closeScan hs).mono (fun _ t ht => ?_) fun _ _ => False.elim
  split
  · exact ⟨IsProper.tidy ⟨ht.1.sendings, ht.1.cursors⟩ ht.2.ended, ht.2.ended, rfl⟩
  · exact ⟨Option.some_ne_none _, ht⟩

/-- Whatever the source is asked, its client stays tidy. -/
theorem keeps_source [Growth φ] (hdb : db.Transacts state) (allowance : Nat) (c : SourceCall) :
    ((r.source (db.watched state) allowance).ask c).Keeps (Session.IsTidy state) := by
  cases c with
  | openScan selection start root =>
    exact Call.keeps_of_ends fun _ hs =>
      (hdb.ends_openScan hs).mono (fun _ _ ht => ht.1) fun _ _ ht => ht.2.1
  | fetch count => exact hdb.keeps_retrying (hdb.keeps_fetchOnce allowance count)
  | closeScan =>
    exact Call.keeps_of_ends fun _ hs =>
      (hdb.ends_closeScan hs).mono (fun _ _ ht => ht.1) fun _ _ => False.elim
  | probe entity => exact hdb.keeps_retrying (hdb.keeps_probeOnce entity)
  | enrich aggregate ids =>
    simp only [source]
    split
    · exact Call.keeps_pure
    · exact hdb.keeps_retrying (hdb.keeps_enrichOnce aggregate ids)
  | ping => exact hdb.keeps_dropping hdb.keeps_ping

/-- So it is tidy after any questions. -/
theorem isTidy_of_asks [Growth φ] (hdb : db.Transacts state) {allowance : Nat}
    {P : SourceCall → Prop} {t : Session (Watched ω)}
    (h : (r.source (db.watched state) allowance).Asks P s t) (hs : s.IsTidy state) :
    t.IsTidy state :=
  h.keeps (hdb.keeps_source allowance) hs

end Database.Transacts

end CatalogSync
