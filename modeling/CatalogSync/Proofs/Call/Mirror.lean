import CatalogSync.Call

/-!
# Calls that mirror each other

A call in a larger world mirrors a call in a part of it when both end alike and the part is left
alike. What is built in the same way from calls that mirror each other does so too, so that a world
may be watched without changing what happens in it.
-/

namespace CatalogSync.Call

variable {ε ε' σ σ' τ τ' α β : Type}

/-- The first call does to the part of its world that `part` shows what the second does. -/
def Mirrors (part : τ → σ) (c : Call ε τ α) (d : Call ε σ α) : Prop :=
  ∀ t, d (part t) = ((c t).1, part (c t).2)

variable {part : τ → σ}

theorem Mirrors.pure (a : α) : Mirrors part (pure a : Call ε τ α) (pure a) := fun _ => rfl

theorem Mirrors.fail (e : ε) : Mirrors part (Call.fail e : Call ε τ α) (Call.fail e) :=
  fun _ => rfl

theorem Mirrors.ofExcept (r : Except ε α) :
    Mirrors part (Call.ofExcept r : Call ε τ α) (Call.ofExcept r) := fun _ => rfl

theorem Mirrors.bind {c : Call ε τ α} {d : Call ε σ α} {f : α → Call ε τ β} {g : α → Call ε σ β}
    (h : Mirrors part c d) (hf : ∀ a, Mirrors part (f a) (g a)) :
    Mirrors part (c >>= f) (d >>= g) := by
  intro t
  have hc := h t
  rcases he : c t with ⟨a | e | _, t'⟩ <;> rw [he] at hc
  · rw [bind_of_ok he, bind_of_ok hc]
    exact hf a t'
  · rw [bind_of_error he, bind_of_error hc]
  · rw [bind_of_unfinished he, bind_of_unfinished hc]

theorem Mirrors.mapError {c : Call ε τ α} {d : Call ε σ α} (h : Mirrors part c d) (f : ε → ε') :
    Mirrors part (c.mapError f) (d.mapError f) := by
  intro t
  simp only [Call.mapError, h t]

/-- Calls on parts of two worlds mirror each other when the parts are read and put back alike. -/
theorem Mirrors.within {c : Call ε τ α} {d : Call ε σ α} (h : Mirrors part c d)
    {part' : τ' → σ'} {get : τ' → τ} {set : τ → τ' → τ'} {get' : σ' → σ} {set' : σ → σ' → σ'}
    (hget : ∀ t, get' (part' t) = part (get t))
    (hset : ∀ s t, set' (part s) (part' t) = part' (set s t)) :
    Mirrors part' (c.within get set) (d.within get' set') := by
  intro t
  simp only [Call.within, hget, h (get t), hset]

/-- Repeated steps mirror each other when the steps do. -/
theorem Mirrors.untilSome {c : Call ε τ (Option α)} {d : Call ε σ (Option α)}
    (h : Mirrors part c d) (n : Nat) : Mirrors part (c.untilSome n) (d.untilSome n) := by
  intro t
  induction n generalizing t with
  | zero => rfl
  | succ n ih =>
    have hc := h t
    rcases he : c t with ⟨(_ | a) | e | _, t'⟩ <;> rw [he] at hc <;>
      simp only [Call.untilSome, he, hc]
    exact ih t'

end CatalogSync.Call
