import CatalogSync.Call

/-!
# How calls end

`c.Ends A F s` says that the call `c`, made in the world `s`, ends with an answer for which `A`
holds in the world it leaves, or else leaves a world for which `F` holds, under its error if there
is one. Every way of combining calls has one equation that says what its end asks of its parts, and
a call that repeats itself ends as an invariant of its step allows.
-/

namespace CatalogSync.Call

variable {ε ε' σ τ α β : Type}

/-- The call ends with an answer for which the first predicate holds or without one and the second
holds, each in the world that is left. -/
def Ends (c : Call ε σ α) (answered : α → σ → Prop) (failed : Option ε → σ → Prop) (s : σ) :
    Prop :=
  match c s with
  | (.ok a, t) => answered a t
  | (.error e, t) => failed (some e) t
  | (.unfinished, t) => failed none t

section

variable {A : α → σ → Prop} {B : β → σ → Prop} {F : Option ε → σ → Prop} {s : σ}

/-- What the end says of a call that is answered. -/
theorem Ends.of_ok {c : Call ε σ α} {a : α} {t : σ} (h : c.Ends A F s) (hc : c s = (.ok a, t)) :
    A a t := by
  simpa only [Ends, hc] using h

/-- What the end says of a call that fails. -/
theorem Ends.of_error {c : Call ε σ α} {e : ε} {t : σ} (h : c.Ends A F s)
    (hc : c s = (.error e, t)) : F (some e) t := by
  simpa only [Ends, hc] using h

/-- What the end says of a call that does not come to one. -/
theorem Ends.of_unfinished {c : Call ε σ α} {t : σ} (h : c.Ends A F s)
    (hc : c s = (.unfinished, t)) : F none t := by
  simpa only [Ends, hc] using h

/-- A call ends as each of its three outcomes says. -/
theorem ends_iff {c : Call ε σ α} :
    c.Ends A F s ↔ (∀ a t, c s = (.ok a, t) → A a t) ∧
      (∀ e t, c s = (.error e, t) → F (some e) t) ∧
      ∀ t, c s = (.unfinished, t) → F none t := by
  refine ⟨fun h => ⟨fun _ _ => h.of_ok, fun _ _ => h.of_error, fun _ => h.of_unfinished⟩, ?_⟩
  rintro ⟨hok, herror, hunfinished⟩
  unfold Ends
  split
  · next hc => exact hok _ _ hc
  · next hc => exact herror _ _ hc
  · next hc => exact hunfinished _ hc

/-- Calls that come out alike end alike. -/
theorem ends_congr {c c' : Call ε σ α} {s' : σ} (h : c s = c' s') :
    c.Ends A F s ↔ c'.Ends A F s' := by
  simp only [Ends, h]

/-- A call that is answered ends as its answer says. -/
theorem ends_iff_of_ok {c : Call ε σ α} {a : α} {t : σ} (h : c s = (.ok a, t)) :
    c.Ends A F s ↔ A a t := by
  simp only [Ends, h]

/-- A call ends with one answer in one world if that is how it comes out. -/
theorem ends_eq_iff {c : Call ε σ α} {a : α} {t : σ} :
    c.Ends (fun a' t' => a' = a ∧ t' = t) (fun _ _ => False) s ↔ c s = (.ok a, t) := by
  rcases h : c s with ⟨_ | _ | _, _⟩ <;> simp [Ends, h]

/-- A call that fails ends as its error says. -/
theorem ends_iff_of_error {c : Call ε σ α} {e : ε} {t : σ} (h : c s = (.error e, t)) :
    c.Ends A F s ↔ F (some e) t := by
  simp only [Ends, h]

/-- The predicates of an end may be weakened. -/
theorem Ends.mono {c : Call ε σ α} {A' : α → σ → Prop} {F' : Option ε → σ → Prop}
    (h : c.Ends A F s) (hA : ∀ a t, A a t → A' a t) (hF : ∀ e t, F e t → F' e t) :
    c.Ends A' F' s := by
  rw [ends_iff] at h ⊢
  exact ⟨fun a t hc => hA a t (h.1 a t hc), fun e t hc => hF _ t (h.2.1 e t hc),
    fun t hc => hF _ t (h.2.2 t hc)⟩

/-- What holds of an answer may be weakened. -/
theorem Ends.imp {c : Call ε σ α} {A' : α → σ → Prop} (h : c.Ends A F s)
    (hA : ∀ a t, A a t → A' a t) : c.Ends A' F s :=
  h.mono hA fun _ _ => id

/-- What is known of one end may be put together. -/
theorem Ends.and {c : Call ε σ α} {A' : α → σ → Prop} {F' : Option ε → σ → Prop}
    (h : c.Ends A F s) (h' : c.Ends A' F' s) :
    c.Ends (fun a t => A a t ∧ A' a t) (fun e t => F e t ∧ F' e t) s := by
  rw [ends_iff] at h h' ⊢
  exact ⟨fun a t hc => ⟨h.1 a t hc, h'.1 a t hc⟩, fun e t hc => ⟨h.2.1 e t hc, h'.2.1 e t hc⟩,
    fun t hc => ⟨h.2.2 t hc, h'.2.2 t hc⟩⟩

/-- A call that cannot end otherwise is answered. -/
theorem Ends.exists_ok {c : Call ε σ α} (h : c.Ends A (fun _ _ => False) s) :
    ∃ a t, c s = (.ok a, t) ∧ A a t := by
  rcases hc : c s with ⟨a | e | _, t⟩
  · exact ⟨a, t, rfl, h.of_ok hc⟩
  · exact (h.of_error hc).elim
  · exact (h.of_unfinished hc).elim

/-- What is said of each outcome is said of the one that the call has. -/
theorem ends_outcome_iff {c : Call ε σ α} {P : Outcome ε α → σ → Prop} :
    c.Ends (fun a => P (.ok a)) (fun e => P (e.elim .unfinished .error)) s ↔ P (c s).1 (c s).2 := by
  rcases h : c s with ⟨_ | _ | _, _⟩ <;> simp [Ends, h]

/-- What holds however the call ends holds of the world that is left. -/
theorem Ends.left {c : Call ε σ α} {P : σ → Prop} (h : c.Ends (fun _ => P) (fun _ => P) s) :
    P (c s).2 := by
  unfold Ends at h
  split at h <;> simp_all

/-- What holds of the world that is left holds however the call ends. -/
theorem ends_of_left {c : Call ε σ α} {P : σ → Prop} (h : P (c s).2) :
    c.Ends (fun _ => P) (fun _ => P) s := by
  unfold Ends
  split <;> simp_all

/-- A call of which nothing is asked ends well. -/
theorem ends_true {c : Call ε σ α} : c.Ends (fun _ _ => True) (fun _ _ => True) s := by
  unfold Ends
  split <;> trivial

/-- An answer is given where the call stands. -/
@[simp] theorem ends_pure {a : α} : (pure a : Call ε σ α).Ends A F s ↔ A a s := Iff.rfl

/-- A failure leaves the world as it is. -/
@[simp] theorem ends_fail {e : ε} : (Call.fail e : Call ε σ α).Ends A F s ↔ F (some e) s :=
  Iff.rfl

/-- A call that does not come to an end leaves the world where it stands. -/
@[simp] theorem ends_unfinished : (Call.unfinished : Call ε σ α).Ends A F s ↔ F none s := Iff.rfl

/-- Two calls in a row end well when the first does, and then the second. -/
@[simp] theorem ends_bind {c : Call ε σ α} {f : α → Call ε σ β} :
    (c >>= f).Ends B F s ↔ c.Ends (fun a t => (f a).Ends B F t) F s := by
  rcases h : c s with ⟨a | e | _, t⟩
  · simp only [Ends, bind_of_ok h, h]
  · simp only [Ends, bind_of_error h, h]
  · simp only [Ends, bind_of_unfinished h, h]

/-- An error that is renamed ends as it would under its new name. -/
@[simp] theorem ends_mapError {c : Call ε σ α} {f : ε → ε'} {F : Option ε' → σ → Prop} :
    (c.mapError f).Ends A F s ↔ c.Ends A (fun e => F (e.map f)) s := by
  rcases h : c s with ⟨a | e | _, t⟩ <;> simp [Ends, mapError, h, Outcome.mapError]

/-- A call on a part of the world ends as it does on that part, with the rest as it was. -/
@[simp] theorem ends_within {c : Call ε σ α} {get : τ → σ} {set : σ → τ → τ} {A : α → τ → Prop}
    {F : Option ε → τ → Prop} {t : τ} :
    (c.within get set).Ends A F t ↔
      c.Ends (fun a s => A a (set s t)) (fun e s => F e (set s t)) (get t) := by
  rcases h : c (get t) with ⟨a | e | _, s⟩ <;> simp [Ends, within, h]

/-- A result that is there already ends as it says. -/
@[simp] theorem ends_ofExcept {r : Except ε α} :
    (Call.ofExcept r : Call ε σ α).Ends A F s ↔
      match r with
      | .ok a => A a s
      | .error e => F (some e) s := by
  cases r <;> rfl

/-- A step without an answer uses up one of the allowance. -/
theorem untilSome_of_none {step : Call ε σ (Option α)} {t : σ} (h : step s = (.ok none, t))
    (allowance : Nat) : step.untilSome (allowance + 1) s = step.untilSome allowance t := by
  simp only [untilSome, h]

/-- Any other step is the last. -/
theorem untilSome_of_some {step : Call ε σ (Option α)} {o : Outcome ε α} {t : σ}
    (h : step s = (o.map some, t)) (allowance : Nat) :
    step.untilSome (allowance + 1) s = (o, t) := by
  cases o <;> simp only [untilSome, h, Outcome.map]

/-- A call that repeats a step ends as its first step says, or as the rest of them does. -/
theorem ends_untilSome_succ {step : Call ε σ (Option α)} {n : Nat}
    (h : step.Ends (fun o t => match o with
      | some a => A a t
      | none => (untilSome step n).Ends A F t) F s) : (untilSome step (n + 1)).Ends A F s := by
  unfold Ends at h ⊢
  rw [untilSome]
  rcases hc : step s with ⟨(_ | a) | e | _, t⟩ <;> simp only [hc] at h ⊢ <;> exact h

/-- A call that repeats a step ends as the invariant of its steps says. -/
theorem ends_untilSome {step : Call ε σ (Option α)} {I : σ → Prop}
    (hstep : ∀ s, I s → step.Ends (fun o t => match o with | some a => A a t | none => I t) F s)
    (hF : ∀ s, I s → F none s) (n : Nat) (hs : I s) : (untilSome step n).Ends A F s := by
  induction n generalizing s with
  | zero => exact hF s hs
  | succ n ih =>
    refine ends_untilSome_succ ((hstep s hs).mono (fun o t h => ?_) fun _ _ h => h)
    cases o with
    | some a => exact h
    | none => exact ih h

/-- A call that repeats a step comes to an end, if every step that asks for another one brings it
nearer and the allowance is not used up before. -/
theorem ends_untilSome_of_lt {step : Call ε σ (Option α)} {I : σ → Prop} (distance : σ → Nat)
    (hstep : ∀ s, I s → step.Ends (fun o t => match o with
      | some a => A a t
      | none => I t ∧ distance t < distance s) F s)
    (n : Nat) (hs : I s) (hn : distance s < n) : (untilSome step n).Ends A F s := by
  induction n generalizing s with
  | zero => omega
  | succ n ih =>
    refine ends_untilSome_succ ((hstep s hs).mono (fun o t h => ?_) fun _ _ h => h)
    cases o with
    | some a => exact h
    | none => exact ih h.1 (by omega)

end

/-- However the call ends, it leaves a property of the world as it finds it. -/
def Keeps (c : Call ε σ α) (I : σ → Prop) : Prop := ∀ s, I s → I (c s).2

section

variable {I : σ → Prop} {s : σ}

/-- An invariant that is kept holds however the call ends. -/
theorem Keeps.ends {c : Call ε σ α} (h : c.Keeps I) (hs : I s) :
    c.Ends (fun _ => I) (fun _ => I) s :=
  ends_of_left (h s hs)

/-- An invariant that holds however the call ends is kept. -/
theorem keeps_of_ends {c : Call ε σ α} (h : ∀ s, I s → c.Ends (fun _ => I) (fun _ => I) s) :
    c.Keeps I := fun s hs => (h s hs).left

/-- An answer keeps every invariant. -/
theorem keeps_pure {a : α} : (pure a : Call ε σ α).Keeps I := fun _ => id

/-- A failure keeps every invariant. -/
theorem keeps_fail {e : ε} : (Call.fail e : Call ε σ α).Keeps I := fun _ => id

/-- A result that is there already keeps every invariant. -/
theorem keeps_ofExcept {r : Except ε α} : (Call.ofExcept r : Call ε σ α).Keeps I := fun _ => id

/-- Two calls in a row keep what each of them keeps. -/
theorem Keeps.bind {c : Call ε σ α} {f : α → Call ε σ β} (hc : c.Keeps I)
    (hf : ∀ a, (f a).Keeps I) : (c >>= f).Keeps I := by
  refine keeps_of_ends fun s hs => ?_
  rw [ends_bind]
  exact (hc.ends hs).imp fun a _ ht => (hf a).ends ht

end

end CatalogSync.Call
