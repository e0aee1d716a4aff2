import CatalogSync.Proofs.Call.Ends
import CatalogSync.Retry.Run

/-!
# How retried calls end

A call that is repeated under a policy ends as one of its attempts does, if every attempt that
fails in passing leaves the world as the next one may find it. It ends with a transient error only
if the policy limits the attempts, and then it does come to an end.
-/

namespace CatalogSync

variable {φ ε σ α : Type} [Growth φ] [Retryable ε]

namespace Backoff

omit [Growth φ] in
theorem isExhausted_iff (b : Backoff φ) :
    b.isExhausted ↔ ∃ limit ∈ b.policy.maxAttempts, limit ≤ b.attempts := by
  unfold isExhausted
  cases b.policy.maxAttempts <;> simp

/-- A failed attempt is followed by a pause unless it was the last. -/
theorem pause_cases (b : Backoff φ) (error : String) :
    ((∃ limit ∈ b.policy.maxAttempts, limit ≤ b.attempts + 1) ∧
      b.pause error = (none, { b with attempts := b.attempts + 1 })) ∨
    ((∀ limit ∈ b.policy.maxAttempts, b.attempts + 1 < limit) ∧
      b.pause error = (some ⟨b.operation, b.attempts + 1, b.delay, error⟩,
        { b with attempts := b.attempts + 1, current := b.next })) := by
  have hlast := isExhausted_iff { b with attempts := b.attempts + 1 }
  unfold pause
  by_cases hexhausted : { b with attempts := b.attempts + 1 }.isExhausted
  · left
    exact ⟨hlast.mp hexhausted, if_pos hexhausted⟩
  · right
    refine ⟨fun limit hlimit => ?_, if_neg hexhausted⟩
    apply Nat.lt_of_not_le
    intro hle
    exact hexhausted (hlast.mpr ⟨limit, hlimit, hle⟩)

end Backoff

/-- The retries stand under the policy, and another attempt is due for this call. -/
structure Retrying.IsDue (p : Policy φ) (r t : Retrying φ σ) : Prop where
  policy : t.backoff.policy = p
  attempts : t.backoff.attempts = r.backoff.attempts + 1
  lt_limit : ∀ limit, p.maxAttempts = some limit → t.backoff.attempts < limit

/-- An attempt asks for the next one only in a world that it left with a transient error. -/
theorem ends_attemptOnce {call : Call ε σ α} {p : Policy φ} {I : σ → Prop} {A : α → σ → Prop}
    {F : Option ε → σ → Prop} {r : Retrying φ σ} (hpolicy : r.backoff.policy = p)
    (hcall : call.Ends A (fun e t => F e t ∧ ∀ e', e = some e' → Retryable.isTransient e' → I t)
      r.world) :
    (attemptOnce (fun _ world => world) call).Ends
      (fun o t => o.elim (I t.world ∧ r.IsDue p t) fun a => A a t.world)
      (fun e t => F e t.world ∧
        ∀ e', e = some e' → Retryable.isTransient e' → p.maxAttempts ≠ none) r := by
  unfold Call.Ends at hcall ⊢
  unfold attemptOnce
  rcases h : call r.world with ⟨a | e | _, w⟩ <;> simp only [h] at hcall ⊢
  · exact hcall
  · by_cases htransient : Retryable.isTransient e
    · rw [if_pos htransient]
      obtain ⟨⟨limit, hlimit, -⟩, hpause⟩ | ⟨hless, hpause⟩ :=
        r.backoff.pause_cases (Retryable.message e)
      · simp only [hpause]
        refine ⟨hcall.1, fun _ _ _ hnone => ?_⟩
        rw [hpolicy, hnone] at hlimit
        cases hlimit
      · simp only [hpause]
        exact ⟨hcall.2 e rfl htransient, hpolicy, rfl, fun limit hmax =>
          hless limit (hpolicy ▸ hmax)⟩
    · rw [if_neg htransient]
      refine ⟨hcall.1, ?_⟩
      rintro e' he' htransient'
      cases he'
      exact absurd htransient' htransient
  · exact ⟨hcall.1, fun _ he' => by cases he'⟩

/-- A retried call ends as its last attempt does. Where the limit on the attempts lies below the
allowance, it comes to an end whenever each of its attempts does. -/
theorem Policy.ends_retry {p : Policy φ} {operation : String} {allowance : Nat}
    {call : Call ε σ α} {I : σ → Prop} {A : α → σ → Prop} {F : Option ε → σ → Prop} {s : σ}
    (hcall : ∀ s, I s → call.Ends A
      (fun e t => F e t ∧ ∀ e', e = some e' → Retryable.isTransient e' → I t) s)
    (hF : (∀ limit, p.maxAttempts = some limit → allowance ≤ limit) → ∀ s, I s → F none s)
    (hs : I s) :
    (p.retry operation allowance call).Ends A
      (fun e t => F e t ∧ ∀ e', e = some e' → Retryable.isTransient e' → p.maxAttempts ≠ none)
      s := by
  have hloop : ((attemptOnce (fun _ world => world) call).untilSome allowance).Ends
      (fun a r => A a r.world)
      (fun e r => F e r.world ∧
        ∀ e', e = some e' → Retryable.isTransient e' → p.maxAttempts ≠ none)
      ⟨s, p.backoff operation, []⟩ := by
    by_cases hlimit : ∃ limit, p.maxAttempts = some limit ∧ limit < allowance
    · obtain ⟨limit, hmax, hlt⟩ := hlimit
      refine Call.ends_untilSome_of_lt (I := fun r : Retrying φ σ =>
        I r.world ∧ r.backoff.policy = p) (fun r => limit - r.backoff.attempts)
        (fun r hr => (ends_attemptOnce hr.2 (hcall r.world hr.1)).imp fun o t ho => ?_)
        allowance ⟨hs, rfl⟩ (Nat.lt_of_le_of_lt (Nat.sub_le ..) hlt)
      cases o with
      | some a => exact ho
      | none =>
        have hattempts := ho.2.attempts
        have hdue := ho.2.lt_limit limit hmax
        exact ⟨⟨ho.1, ho.2.policy⟩, by omega⟩
    · have hnone : ∀ s, I s → F none s := hF fun limit hmax =>
        Nat.le_of_not_lt fun hlt => hlimit ⟨limit, hmax, hlt⟩
      refine Call.ends_untilSome (I := fun r : Retrying φ σ => I r.world ∧ r.backoff.policy = p)
        (fun r hr => (ends_attemptOnce hr.2 (hcall r.world hr.1)).imp fun o t ho => ?_)
        (fun r hr => ⟨hnone r.world hr.1, fun _ he => by cases he⟩) allowance ⟨hs, rfl⟩
      cases o with
      | some a => exact ho
      | none => exact ⟨ho.1, ho.2.policy⟩
  unfold Call.Ends at hloop ⊢
  unfold Policy.retry Policy.retryPausing Policy.run
  split at hloop <;> simp_all

/-- What every attempt keeps is kept by a retried call. -/
theorem Policy.keeps_retry {p : Policy φ} {operation : String} {allowance : Nat}
    {call : Call ε σ α} {I : σ → Prop} (hcall : call.Keeps I) :
    (p.retry operation allowance call).Keeps I := by
  refine Call.keeps_of_ends fun s hs => (ends_retry (I := I) (fun t ht => ?_)
    (fun _ _ => id) hs).mono (fun _ _ => id) fun _ _ h => h.1
  exact (hcall.ends ht).mono (fun _ _ => id) fun _ _ h => ⟨h, fun _ _ _ => h⟩

end CatalogSync
