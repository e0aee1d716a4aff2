import CatalogSync.Catalog.Document
import CatalogSync.Error

/-!
# Batches

Documents are collected until a batch is full. A buffer never holds a full batch: the push that
fills it takes the batch out. `entries_push` and `entries_flush` say that no document is lost,
repeated or moved.
-/

namespace CatalogSync

/-- A document ready to be written under its id. -/
structure Entry where
  id : String
  source : Json

/-- The documents of one bulk request, in order. -/
abbrev Batch := List Entry

/-- Documents waiting for their batch to fill. -/
structure BatchBuffer where
  limit : Nat
  pending : Batch

namespace BatchBuffer

/-- An empty buffer; a limit of zero counts as one. -/
def ofLimit (limit : Nat) : BatchBuffer := ⟨max limit 1, []⟩

/-- Take out whatever is pending, if anything is. -/
def flush (b : BatchBuffer) : Option Batch × BatchBuffer :=
  if b.pending = [] then (none, b) else (some b.pending, { b with pending := [] })

/-- Add a document. The batch that it fills is taken out. -/
def push (b : BatchBuffer) (d : Document) : Except LoadError (Option Batch) × BatchBuffer :=
  match d.source with
  | .error detail => (.error (.serialization detail), b)
  | .ok source =>
    let filled : BatchBuffer := { b with pending := b.pending ++ [⟨d.id, source⟩] }
    if b.limit ≤ filled.pending.length then
      let (batch, rest) := filled.flush
      (.ok batch, rest)
    else (.ok none, filled)

/-- What is pending after a flush follows what was taken out. -/
theorem entries_flush (b : BatchBuffer) :
    (b.flush.1.getD []) ++ b.flush.2.pending = b.pending := by
  unfold flush
  split <;> simp_all

/-- Nothing is pending after a flush. -/
theorem flush_pending (b : BatchBuffer) : b.flush.2.pending = [] := by
  unfold flush
  split
  · assumption
  · rfl

/-- A push adds its document behind what was pending. -/
theorem entries_push {b : BatchBuffer} {d : Document} {batch : Option Batch} {b' : BatchBuffer}
    (h : b.push d = (.ok batch, b')) :
    ∃ source, d.source = .ok source ∧
      batch.getD [] ++ b'.pending = b.pending ++ [⟨d.id, source⟩] := by
  unfold push at h
  split at h
  · simp at h
  · next source hs =>
    refine ⟨source, hs, ?_⟩
    simp only at h
    split at h
    · simp only [Prod.mk.injEq, Except.ok.injEq] at h
      rw [← h.1, ← h.2]
      exact entries_flush _
    · simp only [Prod.mk.injEq, Except.ok.injEq] at h
      rw [← h.1, ← h.2]
      rfl

/-- A push fails only on a document that cannot be encoded. -/
theorem push_eq_error {b : BatchBuffer} {d : Document} {e : LoadError} {b' : BatchBuffer}
    (h : b.push d = (.error e, b')) :
    ∃ detail, d.source = .error detail ∧ e = .serialization detail := by
  unfold push at h
  split at h
  · next detail hd =>
    simp only [Prod.mk.injEq, Except.error.injEq] at h
    exact ⟨detail, hd, h.1.symm⟩
  · simp only at h
    split at h <;> simp at h

end BatchBuffer

end CatalogSync
