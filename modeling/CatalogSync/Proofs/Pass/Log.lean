import CatalogSync.Proofs.Call.Ends
import CatalogSync.Proofs.Pass.Mirror

/-!
# The record of a pass

A pass may be run in a world that also keeps, in order, every question to the source, every batch
written and every commit, each with how it was answered. The record changes nothing: by
`logged_execute` the pass goes as it does without one.
-/

namespace CatalogSync

/-- Something a pass does to the outside, with how it is answered. -/
inductive PassEvent where
  | asked (call : SourceCall) (answer : Outcome SourceError call.Answer)
  | wrote (batch : Batch) (answer : Outcome LoadError LoadResult)
  | committed (cursors : CursorMap) (answer : Except StateError Unit)

namespace PassEvent

def IsAsked : PassEvent → Prop
  | asked .. => True
  | _ => False

def IsCommitted : PassEvent → Prop
  | committed .. => True
  | _ => False

/-- The event is answered, aggregates are shaped as records, and batches are accepted in full. -/
def Succeeds {ρ : Type} (decode : Decoder ρ) : PassEvent → Prop
  | asked (.enrich ..) (.ok docs) => ∃ records, List.mapM decode docs = .ok records
  | asked _ answer => ∃ a, answer = .ok a
  | wrote _ answer => ∃ result, answer = .ok result ∧ result.IsVerified
  | committed _ answer => answer = .ok ()

/-- A question without an answer of its own does not succeed. -/
theorem not_succeeds_asked {ρ : Type} {decode : Decoder ρ} {call : SourceCall}
    {answer : Outcome SourceError call.Answer} (h : ∀ a, answer ≠ .ok a) :
    ¬(asked call answer).Succeeds decode := by
  intro hsucceeds
  cases answer with
  | ok a => exact h a rfl
  | error e =>
    cases call <;>
    · obtain ⟨a, ha⟩ := hsucceeds
      cases ha
  | unfinished =>
    cases call <;>
    · obtain ⟨a, ha⟩ := hsucceeds
      cases ha

/-- The batch that is written, if one is. -/
def batch? : PassEvent → Option Batch
  | wrote batch _ => some batch
  | _ => none

/-- The records that the source answers with. -/
def records {ρ : Type} (decode : Decoder ρ) : PassEvent → List ρ
  | asked (.enrich ..) (.ok docs) =>
    match List.mapM decode docs with
    | .ok records => records
    | .error _ => []
  | _ => []

/-- What the store holds after the event, if a failed commit stores nothing. -/
def held (before : CursorMap) : PassEvent → CursorMap
  | committed cursors (.ok ()) => cursors
  | _ => before

end PassEvent

/-- The records that a part of a pass yields, in order. -/
def yielded {ρ : Type} (decode : Decoder ρ) (events : List PassEvent) : List ρ :=
  events.flatMap (PassEvent.records decode)

/-- The batches that are written in a part of a pass, in order. -/
def batches (events : List PassEvent) : List Batch := events.filterMap PassEvent.batch?

/-- What the store holds after some events. -/
def heldAfter (before : CursorMap) (events : List PassEvent) : CursorMap :=
  events.foldl PassEvent.held before

/-- Everything in this part of a pass succeeds. -/
def Succeeded {ρ : Type} (decode : Decoder ρ) (events : List PassEvent) : Prop :=
  ∀ event ∈ events, event.Succeeds decode

/-- Nothing is committed in this part of a pass. -/
def Uncommitted (events : List PassEvent) : Prop := ∀ event ∈ events, ¬event.IsCommitted

section

variable {ρ : Type} (decode : Decoder ρ) (events later : List PassEvent)

@[simp] theorem yielded_nil : yielded decode [] = [] := rfl

/-- Records are yielded in the order of the events. -/
@[simp] theorem yielded_append :
    yielded decode (events ++ later) = yielded decode events ++ yielded decode later :=
  List.flatMap_append

/-- A single event yields the records that were decoded from its answer. -/
@[simp] theorem yielded_singleton (event : PassEvent) :
    yielded decode [event] = event.records decode :=
  List.flatMap_singleton _ _

@[simp] theorem succeeded_nil : Succeeded decode [] := by simp [Succeeded]

/-- Events succeed if they do on either side. -/
@[simp] theorem succeeded_append :
    Succeeded decode (events ++ later) ↔ Succeeded decode events ∧ Succeeded decode later := by
  simp only [Succeeded, List.forall_mem_append]

@[simp] theorem succeeded_singleton (event : PassEvent) :
    Succeeded decode [event] ↔ event.Succeeds decode := by
  simp only [Succeeded, List.forall_mem_singleton]

@[simp] theorem batches_nil : batches [] = [] := rfl

/-- Batches are written in the order of the events. -/
@[simp] theorem batches_append : batches (events ++ later) = batches events ++ batches later :=
  List.filterMap_append

@[simp] theorem uncommitted_nil : Uncommitted [] := by simp [Uncommitted]

/-- Nothing is committed if nothing is on either side. -/
@[simp] theorem uncommitted_append :
    Uncommitted (events ++ later) ↔ Uncommitted events ∧ Uncommitted later := by
  simp only [Uncommitted, List.forall_mem_append]

/-- A single event commits nothing unless it is a commit that went through. -/
@[simp] theorem uncommitted_singleton (event : PassEvent) :
    Uncommitted [event] ↔ ¬event.IsCommitted := by
  simp only [Uncommitted, List.forall_mem_singleton]

/-- The store goes on from where the first events leave it. -/
@[simp] theorem heldAfter_append (before : CursorMap) :
    heldAfter before (events ++ later) = heldAfter (heldAfter before events) later :=
  List.foldl_append

/-- A part of a pass without commits leaves the store alone. -/
theorem heldAfter_of_uncommitted {events : List PassEvent} (h : Uncommitted events)
    (before : CursorMap) : heldAfter before events = before := by
  induction events with
  | nil => rfl
  | cons event rest ih =>
    have hevent : event.held before = before := by
      cases event with
      | committed cursors answer => exact absurd trivial (h _ List.mem_cons_self)
      | asked call answer => rfl
      | wrote batch answer => rfl
    rw [heldAfter, List.foldl_cons, hevent]
    exact ih fun e he => h e (List.mem_cons_of_mem _ he)

end

/-- A world with a record of what was done in it. -/
structure Logged (ω : Type) where
  world : ω
  events : List PassEvent

namespace Logged

variable {ω : Type}

/-- A call and how it is recorded. -/
def call {ε α : Type} (event : Outcome ε α → PassEvent) (c : Call ε ω α) :
    Call ε (Logged ω) α := fun t =>
  let (outcome, world) := c t.world
  (outcome, ⟨world, t.events ++ [event outcome]⟩)

/-- A call that is recorded does to the world what the call does. -/
theorem mirrors_call {ε α : Type} (event : Outcome ε α → PassEvent) (c : Call ε ω α) :
    Call.Mirrors world (call event c) c := fun _ => rfl

/-- A recorded call ends as the call does, with one event more in the record. -/
theorem ends_call_iff {ε α : Type} {event : Outcome ε α → PassEvent} {c : Call ε ω α}
    {A : α → Logged ω → Prop} {F : Option ε → Logged ω → Prop} {t : Logged ω} :
    (call event c).Ends A F t ↔
      c.Ends (fun a world => A a ⟨world, t.events ++ [event (.ok a)]⟩)
        (fun e world => F e ⟨world, t.events ++ [event (e.elim .unfinished .error)]⟩) t.world := by
  rcases h : c t.world with ⟨a | e | _, world⟩ <;> simp only [Call.Ends, call, h, Option.elim]

/-- Whatever the call does, it is recorded. -/
theorem ends_call {ε α : Type} {event : Outcome ε α → PassEvent} {c : Call ε ω α}
    {A : α → Logged ω → Prop} {F : Option ε → Logged ω → Prop} {t : Logged ω}
    (hok : ∀ a world, A a ⟨world, t.events ++ [event (.ok a)]⟩)
    (herror : ∀ e world, F (some e) ⟨world, t.events ++ [event (.error e)]⟩)
    (hunfinished : ∀ world, F none ⟨world, t.events ++ [event .unfinished]⟩) :
    (call event c).Ends A F t := by
  rcases h : c t.world with ⟨a | e | _, world⟩ <;> simp only [Call.Ends, call, h]
  · exact hok a world
  · exact herror e world
  · exact hunfinished world

end Logged

section

variable {ω ρ : Type}

def Source.logged (source : Source ω) : Source (Logged ω) :=
  ⟨fun c => Logged.call (.asked c) (source.ask c)⟩

def Loader.logged (loader : Loader ω) : Loader (Logged ω) where
  index := loader.index
  batchSize := loader.batchSize
  preCheck := loader.preCheck.within Logged.world fun world t => { t with world }
  write batch := Logged.call (.wrote batch) (loader.write batch)

def Store.logged (store : Store ω) : Store (Logged ω) where
  load t := store.load t.world
  commit m t :=
    let (answer, world) := store.commit m t.world
    (answer, ⟨world, t.events ++ [.committed m answer]⟩)

/-- The pipeline with every batch it writes recorded. -/
def Pipeline.logged (p : Pipeline ω ρ) : Pipeline (Logged ω) ρ := p.withLoader p.loader.logged

/-- A recorded pass goes as the pass itself. -/
theorem Pipeline.logged_execute (p : Pipeline ω ρ) (source : Source ω) (store : Store ω)
    (allowance : Nat) (b : Book (Logged ω)) :
    p.execute source store allowance (b.onPart Logged.world) =
      ((p.logged.execute source.logged store.logged allowance b).1,
        (p.logged.execute source.logged store.logged allowance b).2.onPart Logged.world) := by
  have hsource : source.logged.Mirrors Logged.world source := fun c =>
    Logged.mirrors_call (.asked c) (source.ask c)
  have hloader : p.loader.logged.Mirrors Logged.world p.loader :=
    ⟨rfl, fun batch => Logged.mirrors_call (.wrote batch) (p.loader.write batch)⟩
  have hstore : store.logged.Mirrors Logged.world store := fun _ _ => rfl
  exact mirrors_execute hsource hloader hstore allowance b

end

end CatalogSync
