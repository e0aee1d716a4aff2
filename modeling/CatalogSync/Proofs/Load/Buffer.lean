import CatalogSync.Load.Batch
import Mathlib.Algebra.Order.Floor.Div

/-!
# How many batches a buffer makes

A buffer that has room keeps having room. What a push takes out of it is a full batch, and what a
flush takes out is less. So the batches that a buffer makes of its documents are as many as the
limit asks for, the last one counted in full.
-/

namespace CatalogSync

namespace BatchBuffer

/-- Less is pending than fills a batch. -/
def HasRoom (b : BatchBuffer) : Prop := b.pending.length < b.limit

theorem hasRoom_ofLimit (limit : Nat) : (ofLimit limit).HasRoom :=
  Nat.lt_of_lt_of_le Nat.zero_lt_one (Nat.le_max_right limit 1)

theorem flush_limit (b : BatchBuffer) : b.flush.2.limit = b.limit := by
  unfold flush
  split <;> rfl

/-- What a flush takes out is everything that is pending, unless nothing is. -/
theorem mem_flush {b : BatchBuffer} {batch : Batch} :
    batch ∈ b.flush.1 ↔ batch = b.pending ∧ batch ≠ [] := by
  unfold flush
  by_cases hpending : b.pending = []
  · rw [if_pos hpending]
    constructor
    · intro h
      cases h
    · rintro ⟨rfl, hne⟩
      exact absurd hpending hne
  · rw [if_neg hpending, Option.mem_some_iff]
    constructor
    · rintro rfl
      exact ⟨rfl, hpending⟩
    · rintro ⟨rfl, -⟩
      rfl

/-- A push leaves room, and the batch that it takes out is full. -/
theorem HasRoom.push {b b' : BatchBuffer} {d : Document} {batch : Option Batch} (hroom : b.HasRoom)
    (h : b.push d = (.ok batch, b')) :
    b'.limit = b.limit ∧ b'.HasRoom ∧ ∀ full ∈ batch, full.length = b.limit := by
  unfold BatchBuffer.push at h
  cases hsource : d.source with
  | error detail =>
    rw [hsource] at h
    cases h
  | ok source =>
    rw [hsource] at h
    dsimp only at h
    split at h
    · next hfull =>
      cases h
      refine ⟨flush_limit _, ?_, fun full hmem => ?_⟩
      · rw [HasRoom, flush_pending, flush_limit]
        exact Nat.zero_lt_of_lt hroom
      · rw [(mem_flush.1 hmem).1]
        rw [HasRoom] at hroom
        rw [List.length_append, List.length_singleton] at hfull ⊢
        omega
    · next hfits =>
      cases h
      exact ⟨rfl, Nat.lt_of_not_le hfits, fun full hmem => by cases hmem⟩

end BatchBuffer

/-- The batches are full, but for a last one that may be neither full nor empty. -/
inductive Batch.AreFilled (limit : Nat) : List Batch → Prop where
  | none : AreFilled limit []
  | last {batch : Batch} (hne : batch ≠ []) (hlt : batch.length < limit) : AreFilled limit [batch]
  | full {batch : Batch} {rest : List Batch} (hfull : batch.length = limit)
      (hrest : AreFilled limit rest) : AreFilled limit (batch :: rest)

namespace Batch.AreFilled

variable {limit : Nat} {batches tail : List Batch}

theorem of_full (hfull : ∀ batch ∈ batches, batch.length = limit) (htail : AreFilled limit tail) :
    AreFilled limit (batches ++ tail) := by
  induction batches with
  | nil => exact htail
  | cons batch rest ih =>
    obtain ⟨hbatch, hrest⟩ := List.forall_mem_cons.1 hfull
    exact .full hbatch (ih hrest)

theorem ne_nil (h : AreFilled limit batches) (hlimit : 0 < limit) :
    ∀ batch ∈ batches, batch ≠ [] := by
  induction h with
  | none => simp
  | last hne hlt => simpa using hne
  | full hfull hrest ih =>
    refine List.forall_mem_cons.2 ⟨?_, ih⟩
    rintro rfl
    rw [← hfull] at hlimit
    exact Nat.lt_irrefl 0 hlimit

/-- Filled batches are as many as their entries need. -/
theorem length_eq (h : AreFilled limit batches) (hlimit : 0 < limit) :
    batches.length = batches.flatten.length ⌈/⌉ limit := by
  induction h with
  | none => simp
  | @last batch hne hlt =>
    have hpos : 0 < batch.length := List.length_pos_iff.2 hne
    have hcarry : batch.length + limit - 1 = batch.length - 1 + limit := by omega
    rw [List.flatten_singleton, List.length_singleton, Nat.ceilDiv_eq_add_pred_div, hcarry,
      Nat.add_div_right _ hlimit, Nat.div_eq_of_lt (by omega)]
  | @full batch rest hfull hrest ih =>
    have hcarry : batch.length + rest.flatten.length + limit - 1 =
        rest.flatten.length + limit - 1 + limit := by omega
    rw [Nat.ceilDiv_eq_add_pred_div] at ih ⊢
    rw [List.length_cons, List.flatten_cons, List.length_append, hcarry,
      Nat.add_div_right _ hlimit, ih]

end Batch.AreFilled

end CatalogSync
