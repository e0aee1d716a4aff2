/-!
# Calls

A call acts on a world and ends with an answer or an error. A call that repeats itself is given an
allowance of steps and may end unfinished; a call that finishes does so whatever is added to its
allowance.
-/

namespace CatalogSync

/-- How a call ends. -/
inductive Outcome (ε α : Type) where
  | ok (value : α)
  | error (cause : ε)
  /-- The allowance of steps ran out. -/
  | unfinished
  deriving DecidableEq, Repr

namespace Outcome

variable {ε ε' α β : Type}

def map (f : α → β) : Outcome ε α → Outcome ε β
  | ok a => ok (f a)
  | error e => error e
  | unfinished => unfinished

def mapError (f : ε → ε') : Outcome ε α → Outcome ε' α
  | ok a => ok a
  | error e => error (f e)
  | unfinished => unfinished

def ofExcept : Except ε α → Outcome ε α
  | .ok a => ok a
  | .error e => error e

end Outcome

/-- A call on a world `σ`. -/
def Call (ε σ α : Type) := σ → Outcome ε α × σ

namespace Call

variable {ε ε' σ τ α β : Type}

protected def pure (a : α) : Call ε σ α := fun s => (.ok a, s)

/-- Fail at once. -/
def fail (e : ε) : Call ε σ α := fun s => (.error e, s)

/-- End without having finished. -/
def unfinished : Call ε σ α := fun s => (.unfinished, s)

/-- The answer or error of a computation that leaves the world alone. -/
def ofExcept (r : Except ε α) : Call ε σ α := fun s => (Outcome.ofExcept r, s)

/-- Go on with the answer, if there is one. -/
protected def bind (c : Call ε σ α) (f : α → Call ε σ β) : Call ε σ β := fun s =>
  match c s with
  | (.ok a, s) => f a s
  | (.error e, s) => (.error e, s)
  | (.unfinished, s) => (.unfinished, s)

instance : Monad (Call ε σ) where
  pure := Call.pure
  bind := Call.bind

/-- A call that is answered goes on in the world it left. -/
theorem bind_of_ok {c : Call ε σ α} {f : α → Call ε σ β} {s s' : σ} {a : α}
    (h : c s = (.ok a, s')) : (c >>= f) s = f a s' := by
  change Call.bind c f s = _
  rw [Call.bind, h]

/-- A call that fails stops what would follow. -/
theorem bind_of_error {c : Call ε σ α} {f : α → Call ε σ β} {s s' : σ} {e : ε}
    (h : c s = (.error e, s')) : (c >>= f) s = (.error e, s') := by
  change Call.bind c f s = _
  rw [Call.bind, h]

theorem bind_of_unfinished {c : Call ε σ α} {f : α → Call ε σ β} {s s' : σ}
    (h : c s = (.unfinished, s')) : (c >>= f) s = (.unfinished, s') := by
  change Call.bind c f s = _
  rw [Call.bind, h]

/-- Two calls in a row are answered exactly when the first is answered and then the second. -/
theorem bind_eq_ok_iff {c : Call ε σ α} {f : α → Call ε σ β} {s s' : σ} {b : β} :
    (c >>= f) s = (.ok b, s') ↔ ∃ a t, c s = (.ok a, t) ∧ f a t = (.ok b, s') := by
  constructor
  · intro h
    rcases hc : c s with ⟨a | e | _, t⟩
    · exact ⟨a, t, rfl, by rwa [bind_of_ok hc] at h⟩
    · rw [bind_of_error hc] at h
      cases h
    · rw [bind_of_unfinished hc] at h
      cases h
  · rintro ⟨a, t, hc, hf⟩
    rw [bind_of_ok hc, hf]

theorem map_id_eq (c : Call ε σ α) : id <$> c = c := by
  funext s
  change Call.bind c (fun a => Call.pure (id a)) s = c s
  rcases hc : c s with ⟨a | e | _, t⟩ <;> simp [Call.bind, hc, Call.pure]

theorem bind_bind (c : Call ε σ α) (f : α → Call ε σ β) {γ : Type} (g : β → Call ε σ γ) :
    c >>= f >>= g = c >>= fun a => f a >>= g := by
  funext s
  change Call.bind (Call.bind c f) g s = Call.bind c (fun a => Call.bind (f a) g) s
  rcases hc : c s with ⟨a | e | _, t⟩ <;> simp [Call.bind, hc]

instance : LawfulMonad (Call ε σ) :=
  .mk' _ map_id_eq (fun _ _ => rfl) fun c f g => bind_bind c f g

/-- The call with its error reported as another. -/
def mapError (f : ε → ε') (c : Call ε σ α) : Call ε' σ α := fun s =>
  let (outcome, s) := c s
  (outcome.mapError f, s)

/-- A call on a part of the world. -/
def within (get : τ → σ) (set : σ → τ → τ) (c : Call ε σ α) : Call ε τ α := fun t =>
  let (outcome, s) := c (get t)
  (outcome, set s t)

/-- A change of the world that answers without failing. -/
def modify (f : σ → α × σ) : Call ε σ α := fun s =>
  let (a, s) := f s
  (.ok a, s)

/-- Repeat a step until it gives an answer, as often as the allowance lets. -/
def untilSome (step : Call ε σ (Option α)) : (allowance : Nat) → Call ε σ α
  | 0 => fun s => (.unfinished, s)
  | n + 1 => fun s =>
    match step s with
    | (.ok (some a), s) => (.ok a, s)
    | (.ok none, s) => untilSome step n s
    | (.error e, s) => (.error e, s)
    | (.unfinished, s) => (.unfinished, s)

end Call

end CatalogSync
