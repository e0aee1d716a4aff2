import CatalogSync.Proofs.Session.Calls
import CatalogSync.Proofs.Source.Pages

/-!
# Resumed scans

A scan whose connection is lost is declared again from the timestamp of the last row that was handed
out. Over tables that stay as they are, every page is then cut from what comes after that row,
whatever was lost before it or while it was filled.
-/

namespace CatalogSync

open ChangeRow

variable {φ ω : Type}

/-- A database over tables that stay as they are. The rows of a selection are those that its scans
list, from some timestamp on each; the rows that are left to a declared cursor can be read off the
world. A statement fails only by losing its connection, which shows in nothing else. -/
structure Database.Serves (db : Database ω) (rows : Selection → Option Timestamp → List ChangeRow)
    (cursor : ω → Option (List ChangeRow)) : Prop where
  ordered : ∀ selection root, (rows selection root).Pairwise (· ≤ ·)
  declare : ∀ selection start root w w', db.run (.declare selection start root) w = (.ok (), w') →
    cursor w' = some ((rows selection root).filter (start ≤ ·.timestamp))
  fetch : ∀ count left w sent w', cursor w = some left → db.run (.fetch count) w = (.ok sent, w') →
    List.mapM ScanRow.changeRow sent = .ok (left.take count) ∧ cursor w' = some (left.drop count)
  /-- Whatever else is read beside a cursor leaves it where it is. -/
  read : ∀ s, s.Reads → (∀ count, s ≠ .fetch count) → ∀ w a w', db.run s w = (.ok a, w') →
    cursor w' = cursor w
  refuse : ∀ s w e w', db.run s w = (.error e, w') →
    e.isLoss = true ∨ (∃ count, s = .fetch count) ∧ cursor w = none
  unreached : ∀ endpoint w e w', db.connect endpoint w = (.error e, w') → e.isLoss = true
  surfaces : ∀ s w a w', db.run s w = (.ok a, w') → db.isClosed w' = false
  answers : ∀ s w w', db.run s w ≠ (.unfinished, w')
  connects : ∀ endpoint w w', db.connect endpoint w ≠ (.unfinished, w')

namespace OpenScan

variable {rows : Selection → Option Timestamp → List ChangeRow} {scan : OpenScan}

/-- What a scan has to hand out in all. -/
def result (rows : Selection → Option Timestamp → List ChangeRow) (scan : OpenScan) :
    List ChangeRow :=
  (rows scan.selection (if scan.selection.isRelated then scan.root else none)).filter
    (scan.start ≤ ·.timestamp)

/-- The scan stands behind one of its rows, if any was handed out, and no cursor is declared. -/
structure IsUnderway (rows : Selection → Option Timestamp → List ChangeRow) (scan : OpenScan) :
    Prop where
  undeclared : scan.isDeclared = false
  reached : ∀ last, scan.last = some last → last ∈ scan.result rows

/-- What is left to a cursor is what the scan has still to hand out, but for rows that it drops. -/
structure Continues (rows : Selection → Option Timestamp → List ChangeRow) (scan : OpenScan)
    (left : List ChangeRow) : Prop where
  after_eq : after scan.last left = after scan.last (scan.result rows)
  length_le : left.length ≤ (scan.result rows).length

/-- A cursor that is declared from where the scan stands continues it. -/
theorem IsUnderway.continues (hscan : scan.IsUnderway rows) : scan.Continues rows
    ((rows scan.selection (if scan.selection.isRelated then scan.root else none)).filter
      ((scan.last.map ChangeRow.timestamp).getD scan.start ≤ ·.timestamp)) := by
  rcases hlast : scan.last with _ | last
  · exact ⟨by rw [hlast]; rfl, le_refl _⟩
  · have hstart : scan.start ≤ last.timestamp := by
      simpa using (List.mem_filter.1 (hscan.reached last hlast)).2
    have hcut : (rows scan.selection (if scan.selection.isRelated then scan.root else none)).filter
        (last.timestamp ≤ ·.timestamp) =
        (scan.result rows).filter (last.timestamp ≤ ·.timestamp) := by
      rw [result, List.filter_filter]
      refine List.filter_congr fun r _ => ?_
      rw [Bool.eq_iff_iff, Bool.and_eq_true, decide_eq_true_iff, decide_eq_true_iff]
      exact ⟨fun h => ⟨h, hstart.trans h⟩, And.left⟩
    rw [Option.map_some, Option.getD_some, hcut]
    refine ⟨?_, List.length_filter_le ..⟩
    rw [hlast, after, after, List.filter_filter]
    refine List.filter_congr fun r _ => ?_
    rw [Bool.and_eq_left_iff_imp, Bool.not_eq_true', ← Bool.not_eq_true, isHandedOut_some,
      decide_eq_true_iff]
    exact fun h => timestamp_le (not_le.1 h).le

/-- A scan stands behind the last row that was handed out, an empty page counting for nothing. -/
theorem last_handing (scan : OpenScan) (page : List ChangeRow) :
    (scan.handing page).last = page.getLast?.or scan.last := by
  unfold handing
  cases page.getLast? <;> rfl

/-- Handing out a page changes nothing of what the scan selects. -/
@[simp] theorem result_handing (page : List ChangeRow) :
    (scan.handing page).result rows = scan.result rows := rfl

/-- Behind a page that was cut from what comes after the last row, what is left behind the page
continues the scan. -/
theorem Continues.handing {left : List ChangeRow} {page : List ChangeRow}
    (hordered : (scan.result rows).Pairwise (· ≤ ·))
    (hpage : after scan.last (scan.result rows) = page ++ after scan.last left)
    (hlength : left.length ≤ (scan.result rows).length) :
    (scan.handing page).Continues rows left where
  after_eq := by rw [last_handing, result_handing, after_page hordered hpage]
  length_le := hlength

/-- A scan that hands out what it selects stays under way. -/
theorem IsUnderway.handing (hscan : scan.IsUnderway rows) {page : List ChangeRow}
    (hpage : ∀ row ∈ page, row ∈ scan.result rows) : (scan.handing page).IsUnderway rows where
  undeclared := hscan.undeclared
  reached last hlast := by
    rw [last_handing] at hlast
    rcases Option.or_eq_some_iff.1 hlast with h | ⟨-, h⟩
    · exact hpage last (List.mem_of_getLast? h)
    · exact hscan.reached last h

end OpenScan

namespace Session

/-- The connection is there and not known to be gone. -/
def IsConnected (db : Database ω) (s : Session ω) : Prop :=
  (s.client.hasConnection && !db.isClosed s.world) = true

/-- The client holds the scan, whether or not its cursor counts as declared. -/
def Holds (scan : OpenScan) (s : Session ω) : Prop :=
  s.client.scan.map OpenScan.undeclared = some scan

/-- The cursor of the scan is declared over the connection, and some rows are left to it. -/
structure IsReading (db : Database ω) (cursor : ω → Option (List ChangeRow)) (scan : OpenScan)
    (left : List ChangeRow) (s : Session ω) : Prop where
  held : s.client.scan = some { scan with isDeclared := true }
  connected : s.IsConnected db
  left : cursor s.world = some left

/-- The cursor of the scan is declared, and it continues the scan. -/
def IsResumed (db : Database ω) (rows : Selection → Option Timestamp → List ChangeRow)
    (cursor : ω → Option (List ChangeRow)) (scan : OpenScan) (s : Session ω) : Prop :=
  ∃ left, s.IsReading db cursor scan left ∧ scan.Continues rows left

/-- The client holds the scan, and a cursor that counts as declared continues it. -/
inductive StandsAt (db : Database ω) (rows : Selection → Option Timestamp → List ChangeRow)
    (cursor : ω → Option (List ChangeRow)) (scan : OpenScan) (s : Session ω) : Prop
  | waiting (held : s.client.scan = some scan)
  | reading (resumed : s.IsResumed db rows cursor scan)

/-- How an attempt fails that is not to lose the scan: in passing, or where the scan stood. -/
def Misses (db : Database ω) (rows : Selection → Option Timestamp → List ChangeRow)
    (cursor : ω → Option (List ChangeRow)) (scan : OpenScan) (excused : SourceError → Prop)
    (endless : Prop) : Option SourceError → Session ω → Prop
  | none, _ => endless
  | some e, s => s.Holds scan ∧
      (e.isTransient = true ∨ excused e ∧ s.StandsAt db rows cursor scan)

/-- How repeated attempts fail. -/
def Spares (db : Database ω) (rows : Selection → Option Timestamp → List ChangeRow)
    (cursor : ω → Option (List ChangeRow)) (scan : OpenScan) (excused : SourceError → Prop)
    (endless : Prop) : Option SourceError → Session ω → Prop
  | none, _ => endless
  | some e, s => s.StandsAt db rows cursor scan ∧ (e.isTransient = true ∨ excused e)

variable {db : Database ω} {rows : Selection → Option Timestamp → List ChangeRow}
  {cursor : ω → Option (List ChangeRow)} {scan : OpenScan} {s : Session ω}

/-- A client whose scan is not declared holds it. -/
theorem Holds.of_held (hscan : scan.isDeclared = false) (h : s.client.scan = some scan) :
    s.Holds scan := by
  rw [Holds, h, Option.map_some, OpenScan.undeclared, ← hscan]

/-- A client that reads from a cursor holds the scan. -/
theorem IsReading.holds (hscan : scan.isDeclared = false) {left : List ChangeRow}
    (h : s.IsReading db cursor scan left) : s.Holds scan := by
  rw [Holds, h.held, Option.map_some, OpenScan.undeclared, ← hscan]

/-- A client that stands somewhere in a scan holds it. -/
theorem StandsAt.holds (hscan : scan.isDeclared = false) (h : s.StandsAt db rows cursor scan) :
    s.Holds scan := by
  cases h with
  | waiting held => exact .of_held hscan held
  | reading resumed => exact resumed.choose_spec.1.holds hscan

/-- Without its connection the client holds the scan undeclared. -/
theorem Holds.reconnected (h : s.Holds scan) (hasConnection : Bool) :
    (s.client.reconnected hasConnection).scan = some scan := h

end Session

/-- The address of the source cannot be resolved. -/
def RelationalSource.IsMisaddressed (r : RelationalSource φ) : Prop :=
  ∀ endpoints, DatabaseAddress.resolve r.address ≠ .ok endpoints

namespace Database.Serves

open RelationalSource

variable {r : RelationalSource φ} {db : Database ω}
  {rows : Selection → Option Timestamp → List ChangeRow} {cursor : ω → Option (List ChangeRow)}
  {scan : OpenScan} {s : Session ω} {excused : SourceError → Prop}

/-- Connecting fails only in passing. -/
theorem ends_connectAny (hdb : db.Serves rows cursor) (endpoints : List Endpoint)
    {refusal : Refusal} (hrefusal : refusal.isLoss = true) (w : ω) :
    (db.connectAny refusal endpoints).Ends (fun _ _ => True)
      (fun e _ => ∃ refusal, e = some refusal ∧ refusal.isLoss = true) w := by
  induction endpoints generalizing refusal w with
  | nil => exact ⟨refusal, rfl, hrefusal⟩
  | cons endpoint rest ih =>
    refine ends_connectAny_cons.2 (Call.ends_iff.2 ⟨fun _ _ _ => trivial, fun e w' h => ?_, ?_⟩)
    · exact ih (hdb.unreached endpoint w e w' h) w'
    · exact fun w' h => absurd h (hdb.connects endpoint w w')

/-- A connection that is there is used. -/
theorem ends_ensureConnection_of_isConnected {A : Unit → Session ω → Prop}
    {F : Option SourceError → Session ω → Prop} (hs : s.IsConnected db) :
    (r.ensureConnection db).Ends A F s ↔ A () s := by
  have hthere : r.ensureConnection db s = (.ok (), s) := if_pos hs
  simp only [Call.Ends, hthere]

/-- Without a connection the endpoints are tried. -/
theorem ensureConnection_of_not_isConnected (hs : ¬s.IsConnected db) :
    r.ensureConnection db s = match DatabaseAddress.resolve r.address with
      | .error fault => (.error fault.toSourceError, s)
      | .ok endpoints => RelationalSource.connect db endpoints s :=
  if_neg hs

/-- A connection is made only where none is there, and if none can be made, the client is as it
was. -/
theorem ends_ensureConnection (hdb : db.Serves rows cursor) {A : Unit → Session ω → Prop}
    (hsame : s.IsConnected db → A () s)
    (hnew : ¬s.IsConnected db → ∀ w, A () ⟨s.client.reconnected true, w⟩) :
    (r.ensureConnection db).Ends A (fun e t => ∃ e', e = some e' ∧
      t.client = s.client ∧ (e'.isTransient = true ∨ t = s ∧ r.IsMisaddressed)) s := by
  by_cases husable : s.IsConnected db
  · exact (ends_ensureConnection_of_isConnected husable).2 (hsame husable)
  · have hgone := ensureConnection_of_not_isConnected (r := r) husable
    rcases haddress : DatabaseAddress.resolve r.address with fault | endpoints <;>
      rw [haddress] at hgone
    · rw [Call.ends_iff_of_error hgone]
      refine ⟨_, rfl, rfl, .inr ⟨rfl, fun endpoints h => ?_⟩⟩
      cases haddress.symm.trans h
    · have hconnect : r.ensureConnection db s = RelationalSource.connect db endpoints s := hgone
      have hunreachable : Refusal.unreachable.isLoss = true := rfl
      rw [Call.ends_congr hconnect, RelationalSource.connect, outside, Call.ends_bind,
        Call.ends_within, Call.ends_mapError]
      refine (hdb.ends_connectAny endpoints hunreachable s.world).mono
        (fun _ w _ => hnew husable w) ?_
      rintro _ w ⟨refusal, rfl, hloss⟩
      exact ⟨_, rfl, rfl, .inl hloss⟩

/-- A connection that answers is still there. -/
theorem isConnected_of_answered (hdb : db.Serves rows cursor) (hs : s.IsConnected db)
    {st : Statement}
    {a : st.Answer} {w : ω} (hrun : db.run st s.world = (.ok a, w)) :
    Session.IsConnected db { s with world := w } := by
  have hthere : s.client.hasConnection = true := (Bool.and_eq_true_iff.1 hs).1
  simp [Session.IsConnected, hthere, hdb.surfaces st s.world a w hrun]

/-- A statement that is refused fails in passing, unless rows are fetched from nowhere. -/
theorem misses_of_refused (hdb : db.Serves rows cursor) {endless : Prop} {st : Statement}
    {e : Refusal}
    {w w' : ω} (hrun : db.run st w = (.error e, w'))
    (hst : (∀ count, st ≠ .fetch count) ∨ ∃ left, cursor w = some left) (hs : s.Holds scan) :
    s.Misses db rows cursor scan excused endless (some e.toSourceError) := by
  refine ⟨hs, .inl ?_⟩
  rcases hdb.refuse st w e w' hrun with hloss | ⟨⟨count, hfetch⟩, hnone⟩
  · exact hloss
  · rcases hst with hst | ⟨left, hleft⟩
    · exact absurd hfetch (hst count)
    · cases hnone.symm.trans hleft

/-- From a cursor that is declared the page is filled that is due, and what is left to the cursor
goes on behind it. -/
theorem ends_fill (hdb : db.Serves rows cursor) (excused : SourceError → Prop)
    (hscan : scan.isDeclared = false) (allowance : Nat)
    {page : PageFill} {left : List ChangeRow} (hs : s.IsReading db cursor scan left)
    (hpage : page.IsFilling (scan.result rows) left) :
    (r.fill db allowance page).Ends
      (fun filled t => filled = (after page.last (scan.result rows)).take page.size ∧
        ∃ left', t.IsReading db cursor scan left' ∧ left'.length ≤ left.length ∧
          after page.last (scan.result rows) = filled ++ after page.last left')
      (Session.Misses db rows cursor scan excused
        (allowance < if page.isDrained then 1 else left.length + 2)) s := by
  induction allowance generalizing s page left with
  | zero =>
    change 0 < _
    split <;> omega
  | succ allowance ih =>
    unfold fill
    rcases hwant : page.want? with _ | want
    · exact ⟨hpage.rows_eq hwant, left, hs, le_refl _, hpage.split⟩
    · obtain ⟨hdrained, hpos, -⟩ := PageFill.want?_eq_some hwant
      simp only [ask, Call.ends_bind]
      rw [ends_ensureConnection_of_isConnected hs.connected, ends_send]
      have hholds : s.Holds scan := hs.holds hscan
      refine Call.ends_iff.2 ⟨fun sent w hrun => ?_, fun e w hrun => ?_, fun w hrun => ?_⟩
      · obtain ⟨hrows, hleft⟩ := hdb.fetch want left s.world sent w hs.left hrun
        have hs' : Session.IsReading db cursor scan (left.drop want) { s with world := w } :=
          ⟨hs.held, hdb.isConnected_of_answered hs.connected hrun, hleft⟩
        simp only [hrows, Call.ends_ofExcept]
        refine (ih hs' (hpage.take hwant)).mono ?_ ?_
        · rintro filled t ⟨hfilled, left', hreads, hlength, hsplit⟩
          rw [List.length_drop] at hlength
          exact ⟨hfilled, left', hreads, by omega, hsplit⟩
        · rintro (_ | e) t ht
          · have hshort : allowance < if (left.take want).length < want then 1
                else (left.drop want).length + 2 := by
              simpa [Session.Misses, PageFill.take, hdrained] using ht
            rw [List.length_take, List.length_drop] at hshort
            rw [Session.Misses, if_neg (by simp [hdrained])]
            split at hshort <;> omega
          · exact ht
      · exact hdb.misses_of_refused hrun (.inr ⟨left, hs.left⟩) hholds
      · exact absurd hrun (hdb.answers _ _ _)

/-- Where no connection can be made, the scan is not lost. -/
theorem ends_connected (hdb : db.Serves rows cursor) (hscan : scan.isDeclared = false)
    (hexcused : r.IsMisaddressed → ∀ e, excused e) {endless : Prop}
    (hs : s.StandsAt db rows cursor scan) {A : Unit → Session ω → Prop}
    (hsame : s.IsConnected db → A () s)
    (hnew : ∀ w, A () ⟨s.client.reconnected true, w⟩) :
    (r.ensureConnection db).Ends A (Session.Misses db rows cursor scan excused endless) s := by
  refine (hdb.ends_ensureConnection hsame fun _ => hnew).mono (fun _ _ => id) ?_
  rintro _ t ⟨e, rfl, hclient, hwhy⟩
  have hholds : t.Holds scan := by
    rw [Session.Holds, hclient]
    exact hs.holds hscan
  refine ⟨hholds, hwhy.imp_right ?_⟩
  rintro ⟨rfl, hmisaddressed⟩
  exact ⟨hexcused hmisaddressed e, hs⟩

/-- The cursor of a scan is declared from where the scan stands. -/
theorem ends_declaration (hdb : db.Serves rows cursor) (hscan : scan.IsUnderway rows)
    {endless : Prop}
    (hs : s.client.scan = some scan) (hconnected : s.IsConnected db) :
    (do
      runDeclaration db scan
      updateScan fun scan => { scan with isDeclared := true } : Call SourceError _ Unit).Ends
      (fun _ t => t.IsResumed db rows cursor scan)
      (Session.Misses db rows cursor scan excused endless) s := by
  have hholds : s.Holds scan := .of_held hscan.undeclared hs
  simp only [Call.ends_bind, ends_sendDeclaration, ends_updateScan]
  refine Call.ends_iff.2 ⟨fun _ w hrun => ?_, fun e w hrun => ?_,
    fun w hrun => absurd hrun (hdb.answers _ _ _)⟩
  · refine ⟨_, ⟨?_, hdb.isConnected_of_answered hconnected hrun, hdb.declare _ _ _ _ _ hrun⟩,
      hscan.continues⟩
    rw [hs, Option.map_some]
  · have hmisses : ∀ w', Session.Misses db rows cursor scan excused endless (some e.toSourceError)
        { s with world := w' } := fun w' =>
      hdb.misses_of_refused hrun (.inl fun _ h => by cases h) hholds
    rw [Option.elim_some, ends_ignoring, ends_send]
    exact Call.ends_iff.2 ⟨fun _ w' _ => hmisses w', fun _ w' _ => hmisses w',
      fun w' hrun' => absurd hrun' (hdb.answers _ _ _)⟩

/-- It is declared in a transaction that is begun for it, over whatever connection there is. -/
theorem ends_declare (hdb : db.Serves rows cursor) (hscan : scan.IsUnderway rows)
    (hexcused : r.IsMisaddressed → ∀ e, excused e) {endless : Prop}
    (hs : s.client.scan = some scan) :
    (r.declare db scan).Ends (fun _ t => t.IsResumed db rows cursor scan)
      (Session.Misses db rows cursor scan excused endless) s := by
  have hbegin : ∀ t : Session ω, t.client.scan = some scan → t.client.hasConnection = true →
      (do
        RelationalSource.run db .beginTransaction
        runDeclaration db scan
        updateScan fun scan => { scan with isDeclared := true } : Call SourceError _ Unit).Ends
        (fun _ t => t.IsResumed db rows cursor scan)
        (Session.Misses db rows cursor scan excused endless) t := by
    intro t ht hthere
    have hholds : t.Holds scan := .of_held hscan.undeclared ht
    rw [Call.ends_bind, ends_send]
    refine Call.ends_iff.2 ⟨fun _ w hrun => ?_, fun e w hrun => ?_,
      fun w hrun => absurd hrun (hdb.answers _ _ _)⟩
    · refine hdb.ends_declaration hscan ht ?_
      simp [Session.IsConnected, hthere, hdb.surfaces _ _ _ _ hrun]
    · exact hdb.misses_of_refused hrun (.inl fun _ h => by cases h) hholds
  rw [RelationalSource.declare, Call.ends_bind]
  refine hdb.ends_connected hscan.undeclared hexcused (.waiting hs)
    (fun hconnected => ?_) fun w => ?_
  · exact hbegin s hs (Bool.and_eq_true_iff.1 hconnected).1
  · exact hbegin _ ((Session.Holds.of_held hscan.undeclared hs).reconnected true) rfl

/-- One attempt to fetch hands out the page that is due, and the scan then stands behind it. -/
theorem ends_fetchOnce (hdb : db.Serves rows cursor) (hscan : scan.IsUnderway rows)
    (hexcused : r.IsMisaddressed → ∀ e, excused e) (allowance count : Nat)
    (hs : s.StandsAt db rows cursor scan) :
    (r.fetchOnce db allowance count).Ends
      (fun page t => page = (after scan.last (scan.result rows)).take count ∧
        t.StandsAt db rows cursor (scan.handing page))
      (Session.Misses db rows cursor scan excused
        (allowance < (scan.result rows).length + 2)) s := by
  have hordered : (scan.result rows).Pairwise (· ≤ ·) := (hdb.ordered _ _).filter _
  have hfill : ∀ t : Session ω, t.IsResumed db rows cursor scan →
      (do
        let page ← r.fill db allowance (.start count scan.last)
        updateScan fun scan => { scan with last := page.getLast? <|> scan.last }
        return page : Call SourceError _ (List ChangeRow)).Ends
        (fun page t => page = (after scan.last (scan.result rows)).take count ∧
          t.StandsAt db rows cursor (scan.handing page))
        (Session.Misses db rows cursor scan excused
          (allowance < (scan.result rows).length + 2)) t := by
    rintro t ⟨left, hreads, hcontinues⟩
    rw [Call.ends_bind]
    refine (hdb.ends_fill excused hscan.undeclared allowance hreads
      (PageFill.isFilling_start hcontinues.after_eq)).mono ?_ ?_
    · rintro page t ⟨hpage, left', hreads, hlength, hsplit⟩
      refine ⟨hpage, .reading ⟨left', ⟨?_, hreads.connected, hreads.left⟩, ?_⟩⟩
      · change t.client.scan.map _ = _
        rw [hreads.held, Option.map_some]
        rfl
      · exact .handing hordered hsplit (hlength.trans hcontinues.length_le)
    · rintro (_ | e) t ht
      · have hshort : allowance < left.length + 2 := by
          simpa [Session.Misses, PageFill.start] using ht
        exact hshort.trans_le (Nat.add_le_add_right hcontinues.length_le 2)
      · exact ht
  rw [fetchOnce, Call.ends_bind, ends_client?]
  cases hs with
  | waiting held =>
    simp only [held, hscan.undeclared, Bool.not_false, if_true]
    rw [Call.ends_bind]
    exact (hdb.ends_declare hscan hexcused held).imp fun _ t ht => hfill t ht
  | reading resumed =>
    obtain ⟨left, hreads, hcontinues⟩ := resumed
    simp only [hreads.held, Bool.not_true, Bool.false_eq_true, if_false]
    exact hfill s ⟨left, hreads, hcontinues⟩

/-- Giving up a connection that was lost leaves the scan to be declared again. -/
theorem ends_dropping_spared {α : Type} {c : Call SourceError (Session ω) α}
    {A : α → Session ω → Prop} {endless : Prop}
    (h : c.Ends A (Session.Misses db rows cursor scan excused endless) s) :
    (dropping db c).Ends A (Session.Spares db rows cursor scan excused endless) s := by
  rw [ends_dropping]
  refine h.mono (fun _ _ => id) fun e t ht => ?_
  rcases e with _ | e
  · exact ht
  · obtain ⟨hholds, hwhy⟩ := ht
    rw [Option.any_some]
    by_cases htransient : e.isTransient
    · rw [if_pos htransient]
      exact ⟨.waiting (hholds.reconnected false), .inl htransient⟩
    · rw [if_neg htransient]
      obtain ⟨hexcused, hstands⟩ := hwhy.resolve_left htransient
      exact ⟨hstands, .inr hexcused⟩

/-- Repeated attempts do not lose the scan, if none of them does. -/
theorem ends_retrying_spared [Growth φ] {α : Type} {operation : String} {allowance : Nat}
    {attempt : Call SourceError (Session ω) α} {A : α → Session ω → Prop} {endless : Prop}
    (hattempt : ∀ t : Session ω, t.StandsAt db rows cursor scan →
      attempt.Ends A (Session.Misses db rows cursor scan excused endless) t)
    (hendless : (∀ limit, r.policy.maxAttempts = some limit → allowance ≤ limit) → endless)
    (hs : s.StandsAt db rows cursor scan) :
    (r.retrying db operation allowance attempt).Ends A
      (fun e t => Session.Spares db rows cursor scan excused endless e t ∧
        ∀ e', e = some e' → Retryable.isTransient e' → r.policy.maxAttempts ≠ none) s := by
  refine Policy.ends_retry (I := fun t => t.StandsAt db rows cursor scan) (fun t ht => ?_)
    (fun hlimit _ _ => hendless hlimit) hs
  refine (ends_dropping_spared (hattempt t ht)).mono (fun _ _ => id) fun e t' ht' => ⟨ht', ?_⟩
  rintro e' rfl -
  exact ht'.1

/-- What else is read beside a scan does not move it. -/
theorem ends_ask (hdb : db.Serves rows cursor) (hscan : scan.isDeclared = false) {endless : Prop}
    {st : Statement} (hst : st.Reads) (hother : ∀ count, st ≠ .fetch count)
    (hs : s.StandsAt db rows cursor scan) :
    (r.ask db st).Ends (fun _ t => t.StandsAt db rows cursor scan)
      (Session.Misses db rows cursor scan (fun _ => True) endless) s := by
  have hread : ∀ t : Session ω, t.StandsAt db rows cursor scan →
      (RelationalSource.run db st).Ends (fun _ t => t.StandsAt db rows cursor scan)
        (Session.Misses db rows cursor scan (fun _ => True) endless) t := by
    intro t ht
    have hholds : t.Holds scan := ht.holds hscan
    refine ends_send.2 (Call.ends_iff.2 ⟨fun a w hrun => ?_, fun e w hrun => ?_,
      fun w hrun => absurd hrun (hdb.answers _ _ _)⟩)
    · cases ht with
      | waiting held => exact .waiting held
      | reading resumed =>
        obtain ⟨left, hreads, hcontinues⟩ := resumed
        refine .reading ⟨left, ⟨hreads.held, hdb.isConnected_of_answered hreads.connected hrun, ?_⟩,
          hcontinues⟩
        exact (hdb.read st hst hother _ _ _ hrun).trans hreads.left
    · exact hdb.misses_of_refused hrun (.inl hother) hholds
  rw [RelationalSource.ask, Call.ends_bind]
  refine hdb.ends_connected hscan (fun _ _ => trivial) hs (fun _ => hread s hs) fun w => ?_
  exact hread _ (.waiting ((hs.holds hscan).reconnected true))

/-- An answer that cannot be read does not move the scan either. -/
theorem ends_reading {α : Type} (hscan : scan.isDeclared = false) {endless : Prop}
    {result : Except SourceError α} (hs : s.StandsAt db rows cursor scan) :
    (Call.ofExcept result).Ends (fun _ t => t.StandsAt db rows cursor scan)
      (Session.Misses db rows cursor scan (fun _ => True) endless) s := by
  rw [Call.ends_ofExcept]
  rcases result with e | a
  · exact ⟨hs.holds hscan, .inr ⟨trivial, hs⟩⟩
  · exact hs

end Database.Serves

end CatalogSync
