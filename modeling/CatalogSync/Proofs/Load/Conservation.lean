import CatalogSync.Proofs.Load.Buffer

/-!
# What goes through a buffer

A buffer is pushed to and flushed in any order. What was taken out of it so far, followed by what is
still pending, is what was pushed: every document that can be encoded, in order and once
(`BatchBuffer.run_conserves`). One call carries that equation on, and with it that the buffer has
room and that the batch taken out has the right size.
-/

namespace CatalogSync

/-- What a buffer is asked. -/
inductive BufferCall where
  | push (d : Document)
  | flush

/-- The entry that a call adds. A document that cannot be encoded adds none. -/
def BufferCall.entry? : BufferCall → Option Entry
  | push d => d.source.toOption.map fun source => ⟨d.id, source⟩
  | flush => none

theorem BufferCall.entries_cons (call : BufferCall) (rest : List BufferCall) :
    (call :: rest).filterMap entry? = call.entry?.toList ++ rest.filterMap entry? := by
  cases h : call.entry? <;> simp [h]

/-- A call with its answer. -/
structure BufferEvent where
  call : BufferCall
  answer : Except LoadError (Option Batch)

namespace BufferEvent

/-- The batch that was taken out. -/
def batch? (e : BufferEvent) : Option Batch := e.answer.toOption.join

theorem flatten_batches_cons (e : BufferEvent) (rest : List BufferEvent) :
    ((e :: rest).filterMap batch?).flatten =
      e.batch?.getD [] ++ (rest.filterMap batch?).flatten := by
  cases h : e.batch? <;> simp [h]

/-- What is taken out is a full batch if a push filled it, and less, but not nothing, if it was
flushed. -/
def IsSized (limit : Nat) (e : BufferEvent) : Prop :=
  ∀ batch ∈ e.batch?, batch ≠ [] ∧
    match e.call with
    | .push _ => batch.length = limit
    | .flush => batch.length < limit

end BufferEvent

namespace BatchBuffer

/-- Answer one call. A flush never fails. -/
def ask (b : BatchBuffer) : BufferCall → Except LoadError (Option Batch) × BatchBuffer
  | .push d => b.push d
  | .flush => (.ok b.flush.1, b.flush.2)

/-- Answer calls in order: what became of each, and the buffer as it is left. -/
def run (b : BatchBuffer) : List BufferCall → List BufferEvent × BatchBuffer
  | [] => ([], b)
  | call :: rest =>
    let (answer, b) := b.ask call
    let (events, b) := b.run rest
    (⟨call, answer⟩ :: events, b)

variable {b b' : BatchBuffer}

/-- A document that cannot be encoded is refused, and the buffer stays as it is. -/
theorem push_of_error (b : BatchBuffer) {d : Document} {detail : String}
    (h : d.source = .error detail) : b.push d = (.error (.serialization detail), b) := by
  unfold push
  rw [h]

/-- What one call on a buffer does. -/
structure Answers (b : BatchBuffer) (e : BufferEvent) (b' : BatchBuffer) : Prop where
  limit : b'.limit = b.limit
  room : b'.HasRoom
  entries : e.batch?.getD [] ++ b'.pending = b.pending ++ e.call.entry?.toList
  sized : e.IsSized b.limit

theorem HasRoom.answers_push (hroom : b.HasRoom) (d : Document) :
    b.Answers ⟨.push d, (b.push d).1⟩ (b.push d).2 := by
  rcases hpush : b.push d with ⟨_ | batch, b'⟩
  · next e =>
    obtain ⟨detail, hsource, rfl⟩ := push_eq_error hpush
    obtain ⟨-, rfl⟩ := Prod.mk.inj (hpush.symm.trans (b.push_of_error hsource))
    refine ⟨rfl, hroom, ?_, fun batch hbatch => ?_⟩
    · simp [BufferEvent.batch?, BufferCall.entry?, hsource, Except.toOption]
    · cases hbatch
  · obtain ⟨hlimit, hroom', hfull⟩ := hroom.push hpush
    obtain ⟨source, hsource, hentries⟩ := entries_push hpush
    refine ⟨hlimit, hroom', ?_, fun full hmem => ⟨?_, hfull full hmem⟩⟩
    · simpa [BufferEvent.batch?, BufferCall.entry?, hsource, Except.toOption] using hentries
    · have hlength := hfull full hmem
      rintro rfl
      exact absurd hroom (by rw [HasRoom, ← hlength]; exact Nat.not_lt_zero _)

theorem HasRoom.answers_flush (hroom : b.HasRoom) :
    b.Answers ⟨.flush, .ok b.flush.1⟩ b.flush.2 := by
  refine ⟨b.flush_limit, ?_, ?_, fun batch hbatch => ?_⟩
  · rw [HasRoom, flush_pending, flush_limit]
    exact Nat.zero_lt_of_lt hroom
  · exact b.entries_flush.trans (List.append_nil _).symm
  · obtain ⟨rfl, hne⟩ := mem_flush.1 hbatch
    exact ⟨hne, hroom⟩

theorem HasRoom.answers (hroom : b.HasRoom) (call : BufferCall) :
    b.Answers ⟨call, (b.ask call).1⟩ (b.ask call).2 := by
  cases call with
  | push d => exact hroom.answers_push d
  | flush => exact hroom.answers_flush

/-- What some calls on a buffer do. -/
structure Conserves (b : BatchBuffer) (calls : List BufferCall) (events : List BufferEvent)
    (b' : BatchBuffer) : Prop where
  asked : events.map BufferEvent.call = calls
  limit : b'.limit = b.limit
  room : b'.HasRoom
  entries : (events.filterMap BufferEvent.batch?).flatten ++ b'.pending =
    b.pending ++ calls.filterMap BufferCall.entry?
  sized : ∀ e ∈ events, e.IsSized b.limit

theorem HasRoom.conserves (hroom : b.HasRoom) (calls : List BufferCall) :
    b.Conserves calls (b.run calls).1 (b.run calls).2 := by
  induction calls generalizing b with
  | nil => exact ⟨rfl, rfl, hroom, by simp [run], by simp [run]⟩
  | cons call rest ih =>
    have hfirst := hroom.answers call
    have hrest := ih hfirst.room
    rw [run]
    refine ⟨congrArg (call :: ·) hrest.asked, hrest.limit.trans hfirst.limit, hrest.room, ?_,
      List.forall_mem_cons.2 ⟨hfirst.sized, ?_⟩⟩
    · rw [BufferEvent.flatten_batches_cons, List.append_assoc, hrest.entries, ← List.append_assoc,
        hfirst.entries, List.append_assoc, BufferCall.entries_cons]
    · rw [← hfirst.limit]
      exact hrest.sized

/-- Whatever is asked of a buffer in whatever order, it loses, repeats and moves nothing: the
batches that were taken out, followed by what is pending, are the documents that were pushed, as far
as they could be encoded. The batches have their sizes, less is pending than fills one, and a
document that cannot be encoded leaves the buffer as it is. -/
theorem run_conserves (limit : Nat) (calls : List BufferCall) :
    ∃ events b, (ofLimit limit).run calls = (events, b) ∧
      events.map BufferEvent.call = calls ∧
      (events.filterMap BufferEvent.batch?).flatten ++ b.pending =
        calls.filterMap BufferCall.entry? ∧
      (∀ e ∈ events, e.IsSized (max limit 1)) ∧
      b.pending.length < max limit 1 ∧
      ∀ d detail, d.source = .error detail →
        b.ask (.push d) = (.error (.serialization detail), b) := by
  have h := (hasRoom_ofLimit limit).conserves calls
  exact ⟨_, _, rfl, h.asked, h.entries, h.sized, lt_of_lt_of_eq h.room h.limit,
    fun d detail => push_of_error _⟩

end BatchBuffer

end CatalogSync
