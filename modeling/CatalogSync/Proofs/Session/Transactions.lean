import CatalogSync.Proofs.Session.Resuming

/-!
# Transactions of a session

What the session of a client holds at its database: a transaction is begun and ended by statements,
cursors are declared and closed in it, and an error inside of it leaves it aborted. A client is tidy
when a transaction is open only for its declared scan, and holds no more than that one cursor. Here
is what a single statement leaves of this.
-/

namespace CatalogSync

/-- The statement declares a cursor. -/
def Statement.Declares : Statement → Prop
  | declare .. => True
  | _ => False

/-- What only reads begins no transaction. -/
theorem Statement.Reads.ne_beginTransaction {st : Statement} (h : st.Reads) :
    st ≠ .beginTransaction := by
  cases h <;> exact Statement.noConfusion

/-- What only reads declares no cursor. -/
theorem Statement.Reads.not_declares {st : Statement} (h : st.Reads) : ¬st.Declares := by
  cases h <;> exact id

/-- What the session of a client holds. -/
inductive SessionState where
  /-- There is no session: it was not made yet, was lost, or was given up. -/
  | gone
  /-- No transaction is open. -/
  | idle
  /-- A transaction is open with so many declared cursors; an error inside of it aborts it. -/
  | inTransaction (cursors : Nat) (isAborted : Bool)
  deriving DecidableEq

namespace SessionState

def cursors : SessionState → Nat
  | inTransaction cursors _ => cursors
  | _ => 0

def HasTransaction : SessionState → Prop
  | inTransaction .. => True
  | _ => False

instance (x : SessionState) : Decidable x.HasTransaction :=
  match x with
  | inTransaction .. => isTrue trivial
  | gone => isFalse id
  | idle => isFalse id

/-- What a session holds after a statement that was answered or refused, if it is not lost. A
transaction is not begun twice, and it is ended by COMMIT and ROLLBACK whatever they are answered;
nothing else moves it once it is aborted. -/
def after : SessionState → Statement → (isAnswered : Bool) → SessionState
  | gone, _, _ => gone
  | idle, .beginTransaction, true => inTransaction 0 false
  | idle, _, _ => idle
  | inTransaction .., .commit, _ => idle
  | inTransaction .., .rollback, _ => idle
  | inTransaction cursors true, _, _ => inTransaction cursors true
  | inTransaction cursors false, _, false => inTransaction cursors true
  | inTransaction cursors false, .declare .., true => inTransaction (cursors + 1) false
  | inTransaction cursors false, .close, true => inTransaction (cursors - 1) false
  | inTransaction cursors false, _, true => inTransaction cursors false

/-- The session is as expected, or it is lost. -/
def IsOrGone (actual expected : SessionState) : Prop := actual = expected ∨ actual = gone

variable {x y : SessionState} {st : Statement} {isAnswered : Bool}

/-- Outside of a transaction there is no cursor. -/
theorem cursors_eq_zero (h : ¬x.HasTransaction) : x.cursors = 0 := by
  cases x with
  | inTransaction cursors isAborted => exact absurd trivial h
  | gone | idle => rfl

/-- A lost session holds nothing. -/
theorem IsOrGone.cursors_le (h : x.IsOrGone y) : x.cursors ≤ y.cursors := by
  rcases h with rfl | rfl
  · exact le_refl _
  · exact Nat.zero_le _

/-- What is left of a session has a transaction only if the session had it. -/
theorem IsOrGone.hasTransaction (h : x.IsOrGone y) (hx : x.HasTransaction) : y.HasTransaction := by
  rcases h with rfl | rfl
  · exact hx
  · exact absurd hx id

/-- A session that may be gone, and gone again, may be gone. -/
theorem IsOrGone.trans {z : SessionState} (h : x.IsOrGone y) (h' : y.IsOrGone z) :
    x.IsOrGone z := by
  rcases h with rfl | rfl
  · exact h'
  · exact .inr rfl

/-- Only a declaration adds a cursor. -/
theorem cursors_after_le (hst : ¬st.Declares) : (x.after st isAnswered).cursors ≤ x.cursors := by
  rcases x with _ | _ | ⟨cursors, isAborted⟩
  · exact le_refl _
  · cases st <;> cases isAnswered <;> exact le_refl _
  · cases st with
    | declare => exact absurd trivial hst
    | commit | rollback => exact Nat.zero_le _
    | close =>
      cases isAborted <;> cases isAnswered <;> first | exact le_refl _ | exact Nat.sub_le ..
    | _ => cases isAborted <;> cases isAnswered <;> exact le_refl _

/-- A declaration adds no more than one. -/
theorem cursors_after_le_succ (hst : st.Declares) :
    (x.after st isAnswered).cursors ≤ x.cursors + 1 := by
  cases st with
  | declare =>
    rcases x with _ | _ | ⟨cursors, _ | _⟩ <;> cases isAnswered <;>
      first | exact le_refl _ | exact Nat.le_succ _
  | _ => exact absurd hst id

/-- Only BEGIN opens a transaction. -/
theorem hasTransaction_of_after (hst : st ≠ .beginTransaction)
    (h : (x.after st isAnswered).HasTransaction) : x.HasTransaction := by
  rcases x with _ | _ | ⟨cursors, isAborted⟩
  · exact h
  · cases st <;> first | exact absurd rfl hst | exact h
  · trivial

/-- A transaction is open only after a BEGIN that was answered. -/
theorem not_hasTransaction_of_refused (hx : ¬x.HasTransaction) :
    ¬(x.after st false).HasTransaction := by
  rcases x with _ | _ | ⟨cursors, isAborted⟩
  · exact id
  · cases st <;> exact id
  · exact absurd trivial hx

/-- COMMIT and ROLLBACK leave no transaction. -/
theorem not_hasTransaction_after (hst : st = .commit ∨ st = .rollback) :
    ¬(x.after st isAnswered).HasTransaction := by
  rcases hst with rfl | rfl <;> rcases x with _ | _ | ⟨cursors, isAborted⟩ <;> exact id

end SessionState

open SessionState

variable {ω α φ : Type}

/-- A database whose sessions hold transactions, as a state that can be read off the world. A
session ends when its connection is lost or given up, which may happen with any statement, and a
transaction ends with its session. Which statements are answered is left open, inside an aborted
transaction as anywhere. -/
structure Database.Transacts (db : Database ω) (state : ω → SessionState) : Prop where
  connects : ∀ endpoint w w', db.connect endpoint w = (.ok (), w') → (state w').IsOrGone .idle
  unreached : ∀ endpoint w e w', db.connect endpoint w = (.error e, w') →
    (state w').IsOrGone (state w)
  disconnects : ∀ w, state (db.disconnect w) = .gone
  closed : ∀ w, db.isClosed w = true → state w = .gone
  answered : ∀ s w a w', db.run s w = (.ok a, w') → (state w').IsOrGone ((state w).after s true)
  refused : ∀ s w e w', db.run s w = (.error e, w') → (state w').IsOrGone ((state w).after s false)
  /-- Calls to the database come to an end. -/
  ends : ∀ s w w', db.run s w ≠ (.unfinished, w')
  connectEnds : ∀ endpoint w w', db.connect endpoint w ≠ (.unfinished, w')

/-- A statement that was sent, and what the session held before it and after it. -/
structure Sending where
  statement : Statement
  found : SessionState
  left : SessionState

/-- A transaction is begun only where none is open, and there are never two cursors. -/
structure Sending.IsProper (x : Sending) : Prop where
  begins : x.statement = .beginTransaction → ¬x.found.HasTransaction
  found : x.found.cursors ≤ 1
  left : x.left.cursors ≤ 1

/-- A world and the statements that were sent in it, the last one first. -/
structure Watched (ω : Type) where
  world : ω
  sendings : List Sending

/-- The database with every statement written down. -/
def Database.watched (db : Database ω) (state : ω → SessionState) : Database (Watched ω) :=
  { db.within Watched.world fun world w => { w with world } with
    run := fun s w =>
      let (outcome, world) := db.run s w.world
      (outcome, ⟨world, ⟨s, state w.world, state world⟩ :: w.sendings⟩) }

namespace Session

/-- A client that was asked for nothing. -/
def unasked (w : ω) : Session (Watched ω) := ⟨.fresh, ⟨w, []⟩⟩

variable (state : ω → SessionState)

/-- The session after a statement that left a world behind. -/
def behind (s : Session (Watched ω)) (st : Statement) (w : ω) : Session (Watched ω) :=
  { s with world := ⟨w, ⟨st, state s.world.world, state w⟩ :: s.world.sendings⟩ }

/-- Every statement was sent properly, and there is at most one cursor. -/
structure IsProper (s : Session (Watched ω)) : Prop where
  sendings : ∀ x ∈ s.world.sendings, x.IsProper
  cursors : (state s.world.world).cursors ≤ 1

/-- A transaction is open only for a scan that counts as declared over the connection. -/
structure IsTidy (s : Session (Watched ω)) : Prop extends IsProper state s where
  backed : (state s.world.world).HasTransaction →
    s.client.hasConnection = true ∧ s.client.scan.any OpenScan.isDeclared = true

/-- No scan is held, and no transaction is open. -/
structure IsReleased (s : Session (Watched ω)) : Prop where
  held : s.client.scan = none
  ended : ¬(state s.world.world).HasTransaction

/-- The client stays while its session is left without a transaction. -/
structure HasEnded (client : DatabaseClient) (s : Session (Watched ω)) : Prop
    extends IsProper state s where
  client : s.client = client
  ended : ¬(state s.world.world).HasTransaction

variable {state} {s : Session (Watched ω)} {st : Statement} {w : ω} {isAnswered : Bool}

/-- Where no transaction is open, nothing has to be backed. -/
theorem IsProper.tidy (h : s.IsProper state) (hnone : ¬(state s.world.world).HasTransaction) :
    s.IsTidy state :=
  ⟨h, fun hsome => absurd hsome hnone⟩

/-- A client that was asked for nothing is tidy, if it has no session. -/
theorem isTidy_unasked (hw : state w = .gone) : (unasked w).IsTidy state := by
  have hgone : state (unasked w).world.world = .gone := hw
  refine IsProper.tidy ⟨fun x hx => absurd hx List.not_mem_nil, ?_⟩ ?_ <;> rw [hgone]
  · exact Nat.zero_le _
  · exact id

/-- Whatever the client does, it is tidy in a world in which no transaction is open. -/
theorem IsProper.renewed (h : s.IsProper state) {c : DatabaseClient} {w : Watched ω}
    (hsendings : w.sendings = s.world.sendings) (hnone : ¬(state w.world).HasTransaction) :
    Session.IsTidy state ⟨c, w⟩ := by
  refine IsProper.tidy ⟨?_, ?_⟩ hnone
  · rw [hsendings]
    exact h.sendings
  · rw [cursors_eq_zero hnone]
    exact Nat.zero_le _

/-- A client stays tidy where nothing was sent, even if the session was lost. -/
theorem IsTidy.moved (h : s.IsTidy state) {w : Watched ω}
    (hsendings : w.sendings = s.world.sendings)
    (hw : (state w.world).IsOrGone (state s.world.world)) :
    Session.IsTidy state { s with world := w } where
  sendings := by
    rw [hsendings]
    exact h.sendings
  cursors := hw.cursors_le.trans h.cursors
  backed hsome := h.backed (hw.hasTransaction hsome)

/-- Without a scan that counts as declared, no transaction is open. -/
theorem IsTidy.ended (h : s.IsTidy state) (hscan : ¬s.client.scan.any OpenScan.isDeclared) :
    ¬(state s.world.world).HasTransaction :=
  fun hsome => hscan (h.backed hsome).2

/-- A client stays tidy whatever becomes of its scan, as long as that counts as declared. -/
theorem IsTidy.rescanned (h : s.IsTidy state) {scan : Option OpenScan}
    (hscan : s.client.scan.any OpenScan.isDeclared → scan.any OpenScan.isDeclared) :
    Session.IsTidy state { s with client := { s.client with scan } } where
  sendings := h.sendings
  cursors := h.cursors
  backed hsome := ⟨(h.backed hsome).1, hscan (h.backed hsome).2⟩

/-- A statement is sent properly that begins no transaction inside another and declares no cursor
beside another. -/
theorem IsProper.behind (h : s.IsProper state)
    (hbegins : st = .beginTransaction → ¬(state s.world.world).HasTransaction)
    (hcursors : (state w).cursors ≤ 1) : (s.behind state st w).IsProper state where
  sendings := by
    intro x hx
    rcases List.mem_cons.1 hx with rfl | hx
    · exact ⟨hbegins, h.cursors, hcursors⟩
    · exact h.sendings x hx
  cursors := hcursors

/-- What neither begins a transaction nor declares a cursor is sent properly anywhere. -/
theorem IsProper.behind_of_ne (h : s.IsProper state) (hst : st ≠ .beginTransaction)
    (hdeclare : ¬st.Declares)
    (hw : (state w).IsOrGone ((state s.world.world).after st isAnswered)) :
    (s.behind state st w).IsProper state := by
  refine h.behind (fun hbegin => absurd hbegin hst) (hw.cursors_le.trans ?_)
  exact (cursors_after_le hdeclare).trans h.cursors

/-- What only reads keeps a client tidy, answered or refused. -/
theorem IsTidy.read (h : s.IsTidy state) (hst : st.Reads)
    (hw : (state w).IsOrGone ((state s.world.world).after st isAnswered)) :
    (s.behind state st w).IsTidy state where
  toIsProper := h.behind_of_ne hst.ne_beginTransaction hst.not_declares hw
  backed hsome :=
    h.backed (hasTransaction_of_after hst.ne_beginTransaction (hw.hasTransaction hsome))

/-- COMMIT and ROLLBACK leave no transaction. -/
theorem IsProper.ending (h : s.IsProper state) (hst : st = .commit ∨ st = .rollback)
    (hw : (state w).IsOrGone ((state s.world.world).after st isAnswered)) :
    (s.behind state st w).HasEnded state s.client where
  toIsProper := by
    refine h.behind_of_ne ?_ ?_ hw
    · rcases hst with rfl | rfl <;> exact Statement.noConfusion
    · rcases hst with rfl | rfl <;> exact id
  client := rfl
  ended hsome := not_hasTransaction_after hst (hw.hasTransaction hsome)

/-- A session that has ended leaves nothing open. -/
theorem HasEnded.tidy {client : DatabaseClient} (h : s.HasEnded state client) : s.IsTidy state :=
  h.toIsProper.tidy h.ended

end Session

end CatalogSync
