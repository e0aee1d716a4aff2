import CatalogSync.Settings.Validation

/-!
# What makes settings acceptable

The conditions on settings, each said by itself. Settings violate nothing exactly if they meet all
of them (`Settings.violation?_eq_none_iff`).
-/

namespace CatalogSync

open Float.Model in
/-- A double that is a number compares with a positive one as that one with it, the other way
round. -/
theorem exists_compare_positive (u : UnpackedFloat) (h : u.isNaN = false) (m : Nat)
    (e : Int) (hm : 0 < m) :
    ∃ o, u.compare (.finite .positive m e hm) = some o ∧
      (UnpackedFloat.finite .positive m e hm).compare u = some o.swap := by
  cases u with
  | notANumber => cases h
  | infinity s => cases s <;> exact ⟨_, rfl, rfl⟩
  | zero s => exact ⟨_, rfl, rfl⟩
  | finite s m' e' hm' =>
    cases s with
    | negative => exact ⟨_, rfl, rfl⟩
    | positive =>
      refine ⟨(compare e' e).then (compare m' m), rfl, ?_⟩
      rw [Ordering.swap_then, Int.compare_swap, Nat.compare_swap]
      rfl

/-- A double is at least 1 unless it is less, or no number. -/
theorem one_le_iff (x : Float) : 1 ≤ x ↔ ¬ (x.isNaN = true ∨ x < 1) := by
  obtain ⟨m, e, hm, hone⟩ : ∃ m e hm, (1 : Float).toModel.unpack = .finite .positive m e hm :=
    ⟨_, _, _, rfl⟩
  change decide ((Float.toModel 1).unpack.compare x.toModel.unpack |>.any Ordering.isLE) = true ↔
    ¬ (x.toModel.unpack.isNaN = true ∨
      decide ((x.toModel.unpack.compare (Float.toModel 1).unpack == some .lt) = true) = true)
  rw [hone]
  cases hnumber : x.toModel.unpack.isNaN with
  | true =>
    have hnone : x.toModel.unpack = .notANumber := by
      cases hu : x.toModel.unpack with
      | notANumber => rfl
      | _ =>
        rw [hu] at hnumber
        cases hnumber
    rw [hnone]
    exact iff_of_false Bool.false_ne_true fun h => h (.inl rfl)
  | false =>
    obtain ⟨o, ho, hswap⟩ := exists_compare_positive x.toModel.unpack hnumber m e hm
    rw [ho, hswap]
    cases o <;> decide

namespace Settings

/-- Settings that a process can start with. -/
structure IsAcceptable (s : Settings) : Prop where
  page_pos : 0 < s.source.batchSize
  /-- What a page of rows touches fits into one bulk request. -/
  page_le : s.source.batchSize ≤ s.destination.batchSize
  /-- Pauses do not get shorter. -/
  one_le_factor : 1 ≤ s.retry.factor
  start_pos : 0 < s.retry.startMs
  attempts_pos : 0 < s.startup.maxAttempts
  named : ∀ name ∈ s.streams.names, name ≠ ""
  nodup : s.streams.names.Nodup

/-- Settings violate nothing exactly if they are acceptable. -/
theorem violation?_eq_none_iff {s : Settings} : s.violation? = none ↔ s.IsAcceptable := by
  simp only [violation?, ite_some_eq_none_iff, firstBadName_eq_none_iff]
  constructor
  · rintro ⟨hpage, hfits, hfactor, hstart, hattempts, hnamed, hnodup, -⟩
    exact ⟨Nat.pos_of_ne_zero hpage, Nat.le_of_not_lt hfits,
      (one_le_iff _).2 (by simpa using hfactor), Nat.pos_of_ne_zero hstart,
      Nat.pos_of_ne_zero hattempts, hnamed, hnodup⟩
  · intro h
    exact ⟨Nat.ne_of_gt h.page_pos, Nat.not_lt_of_le h.page_le,
      by simpa using (one_le_iff _).1 h.one_le_factor, Nat.ne_of_gt h.start_pos,
      Nat.ne_of_gt h.attempts_pos, h.named, h.nodup, fun _ _ => List.not_mem_nil⟩

end Settings

end CatalogSync
