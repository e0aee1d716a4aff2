import CatalogSync.Proofs.Call.Retry
import Mathlib.Algebra.Order.Field.Basic
import Mathlib.Data.Rat.Floor
import Mathlib.Tactic.GCongr
import Mathlib.Tactic.Ring

/-!
# Pauses grow up to the border

How long a pause is only depends on how many there were since the retries of its operation began,
or began anew. With an exact factor that is at least one the pauses never shrink, exceed neither
the border nor the start times a power of the factor, and stay at the border once they are there.
-/

namespace CatalogSync

/-- An exact factor: nothing is lost but the fraction of a nanosecond. -/
instance : Growth ℚ where
  nears factor border span := (border : ℚ) / factor ≤ span
  grow factor span := ⌊(span : ℚ) * factor⌋₊
  hold _ span := span

namespace Policy

variable {φ : Type} [Growth φ] (p : Policy φ)

/-- The pause after so many others, before it is capped. -/
def currentAt : Nat → Span
  | 0 => p.start
  | n + 1 => (Backoff.mk p "" n (currentAt n)).next

/-- The pause after so many others. -/
def delayAt (n : Nat) : Span := min (Growth.hold p.factor (p.currentAt n)) p.border

theorem delayAt_le_border (n : Nat) : p.delayAt n ≤ p.border := min_le_right _ _

end Policy

namespace Backoff

section Standing

variable {φ : Type} [Growth φ] {p : Policy φ} {operation : String} {n : Nat} {b : Backoff φ}

/-- The retries of an operation after so many pauses since they began, or began anew. -/
inductive Stands (p : Policy φ) (operation : String) : Nat → Backoff φ → Prop where
  | begun : Stands p operation 0 (p.backoff operation)
  | paused {n : Nat} {b : Backoff φ} (h : Stands p operation n b) (error : String)
      (hpause : (b.pause error).1 ≠ none) : Stands p operation (n + 1) (b.pause error).2
  | exhausted {n : Nat} {b : Backoff φ} (h : Stands p operation n b) (error : String)
      (hpause : (b.pause error).1 = none) : Stands p operation n (b.pause error).2
  | reset {n : Nat} {b : Backoff φ} (h : Stands p operation n b) : Stands p operation 0 b.reset

/-- Of how the retries came to stand here only the failed attempts matter. -/
theorem Stands.eq_mk (h : Stands p operation n b) :
    b = ⟨p, operation, b.attempts, p.currentAt n⟩ := by
  induction h with
  | begun => rfl
  | @paused n b h error hpause ih =>
    obtain ⟨_, heq⟩ | ⟨_, heq⟩ := b.pause_cases error
    · exact absurd (by rw [heq]) hpause
    · rw [heq, ih]
      rfl
  | @exhausted n b h error hpause ih =>
    obtain ⟨_, heq⟩ | ⟨_, heq⟩ := b.pause_cases error
    · rw [heq, ih]
    · rw [heq] at hpause
      cases hpause
  | reset h ih =>
    rw [ih]
    rfl

/-- The pause that follows is as long as its number says. -/
theorem Stands.delay (h : Stands p operation n b) : b.delay = p.delayAt n := by
  rw [h.eq_mk]
  rfl

/-- Retries that begin anew are those that begin. -/
theorem Stands.reset_eq (h : Stands p operation n b) : b.reset = p.backoff operation := by
  rw [h.eq_mk]
  rfl

end Standing

section Exact

variable (b : Backoff ℚ)

theorem next_cases :
    ((b.policy.border : ℚ) / b.policy.factor ≤ b.current ∧ b.next = b.policy.border) ∨
    ((b.current : ℚ) < b.policy.border / b.policy.factor ∧
      b.next = ⌊(b.current : ℚ) * b.policy.factor⌋₊) := by
  unfold next
  by_cases hnears : (b.policy.border : ℚ) / b.policy.factor ≤ b.current
  · left
    exact ⟨hnears, by simp [Growth.nears, hnears]⟩
  · right
    exact ⟨lt_of_not_ge hnears, by simp [Growth.nears, Growth.grow, hnears]⟩

variable {b} (hfactor : 1 ≤ b.policy.factor)

include hfactor

/-- What grows stays under the border, even before it is capped. -/
theorem next_le_border : b.next ≤ b.policy.border := by
  have hpos : 0 < b.policy.factor := by linarith
  obtain ⟨_, hnext⟩ | ⟨hlt, hnext⟩ := b.next_cases
  · exact hnext.le
  · rw [hnext]
    apply Nat.floor_le_of_le
    exact ((lt_div_iff₀ hpos).mp hlt).le

theorem min_le_next : min b.current b.policy.border ≤ b.next := by
  obtain ⟨_, hnext⟩ | ⟨_, hnext⟩ := b.next_cases
  · rw [hnext]
    exact min_le_right _ _
  · rw [hnext]
    apply (min_le_left _ _).trans
    apply Nat.le_floor
    exact le_mul_of_one_le_right (Nat.cast_nonneg _) hfactor

/-- The jump to the border is no longer than the step it replaces. -/
theorem next_le_mul : (b.next : ℚ) ≤ b.current * b.policy.factor := by
  have hpos : 0 < b.policy.factor := by linarith
  obtain ⟨hle, hnext⟩ | ⟨_, hnext⟩ := b.next_cases
  · rw [hnext]
    exact (div_le_iff₀ hpos).mp hle
  · rw [hnext]
    exact Nat.floor_le (by positivity)

/-- Where the factor is whole nothing is truncated. -/
theorem next_eq_min {k : Nat} (hk : b.policy.factor = k) :
    b.next = min b.policy.border (b.current * k) := by
  have hpos : (0 : ℚ) < k := by linarith
  obtain ⟨hle, hnext⟩ | ⟨hlt, hnext⟩ := b.next_cases
  · rw [hk, div_le_iff₀ hpos] at hle
    rw [hnext, min_eq_left (by exact_mod_cast hle)]
  · rw [hk, lt_div_iff₀ hpos] at hlt
    rw [hnext, hk, min_eq_right (by exact_mod_cast hlt.le)]
    exact_mod_cast Nat.floor_natCast (R := ℚ) (b.current * k)

end Exact

end Backoff

namespace Policy

section Exact

variable {p : Policy ℚ} (hfactor : 1 ≤ p.factor)

include hfactor

/-- Only the first pause has to be capped. -/
theorem delayAt_succ (n : Nat) : p.delayAt (n + 1) = p.currentAt (n + 1) :=
  min_eq_left (Backoff.next_le_border hfactor)

theorem delayAt_le_succ (n : Nat) : p.delayAt n ≤ p.delayAt (n + 1) := by
  rw [delayAt_succ hfactor]
  exact Backoff.min_le_next (b := ⟨p, "", n, p.currentAt n⟩) hfactor

theorem delayAt_mono : Monotone p.delayAt := monotone_nat_of_le_succ (delayAt_le_succ hfactor)

theorem currentAt_le_pow (n : Nat) : (p.currentAt n : ℚ) ≤ p.start * p.factor ^ n := by
  induction n with
  | zero => simp [currentAt]
  | succ n ih =>
    have hpos : 0 ≤ p.factor := by linarith
    calc (p.currentAt (n + 1) : ℚ)
        ≤ p.currentAt n * p.factor :=
          Backoff.next_le_mul (b := ⟨p, "", n, p.currentAt n⟩) hfactor
      _ ≤ p.start * p.factor ^ n * p.factor := by gcongr
      _ = p.start * p.factor ^ (n + 1) := by ring

theorem delayAt_le_pow (n : Nat) : (p.delayAt n : ℚ) ≤ p.start * p.factor ^ n := by
  apply le_trans _ (currentAt_le_pow hfactor n)
  exact_mod_cast min_le_left _ _

omit hfactor in
/-- What is capped at the end need not be capped on the way. -/
theorem min_min_mul {border span k : Nat} (hk : 1 ≤ k) :
    min border (min border span * k) = min border (span * k) := by
  obtain hle | hle := le_total span border
  · rw [min_eq_right hle]
  · have hborder : border ≤ border * k := Nat.le_mul_of_pos_right _ hk
    rw [min_eq_left hle, min_eq_left hborder, min_eq_left (hborder.trans (by gcongr))]

/-- Under a whole factor the pauses are the powers, capped. -/
theorem delayAt_eq_min_pow {k : Nat} (hk : p.factor = k) (n : Nat) :
    p.delayAt n = min p.border (p.start * k ^ n) := by
  have hone : 1 ≤ k := by exact_mod_cast hk ▸ hfactor
  induction n with
  | zero => simp [delayAt, currentAt, Growth.hold, min_comm]
  | succ n ih =>
    have hnext : p.currentAt (n + 1) = min p.border (p.currentAt n * k) :=
      Backoff.next_eq_min (b := ⟨p, "", n, p.currentAt n⟩) hfactor hk
    calc p.delayAt (n + 1)
        = min p.border (p.currentAt n * k) := (delayAt_succ hfactor n).trans hnext
      _ = min p.border (p.delayAt n * k) := by
        rw [← min_min_mul hone, min_comm p.border (p.currentAt n)]
        rfl
      _ = min p.border (p.start * k ^ (n + 1)) := by rw [ih, min_min_mul hone, mul_assoc, pow_succ]

/-- Once a pause is the border all later ones are. -/
theorem delayAt_eq_border {n m : Nat} (h : p.delayAt n = p.border) (hle : n ≤ m) :
    p.delayAt m = p.border := by
  apply le_antisymm (p.delayAt_le_border m)
  exact h ▸ delayAt_mono hfactor hle

end Exact

end Policy

/-- The pauses since the retries began, or began anew, start with the start, grow with the factor
and end at the border, however the retries came to stand where they do. -/
theorem Backoff.delays_grow (p : Policy ℚ) (hfactor : 1 ≤ p.factor) :
    p.delayAt 0 = min p.start p.border ∧
    (∀ n, p.delayAt n ≤ p.delayAt (n + 1) ∧ p.delayAt n ≤ p.border ∧
      (p.delayAt n : ℚ) ≤ p.start * p.factor ^ n) ∧
    (∀ k : Nat, p.factor = k → ∀ n, p.delayAt n = min p.border (p.start * k ^ n)) ∧
    (∀ n, p.delayAt n = p.border → ∀ m, n ≤ m → p.delayAt m = p.border) ∧
    ∀ operation n b, Stands p operation n b →
      (∀ error,
        (∃ limit ∈ p.maxAttempts, limit ≤ b.attempts + 1) ∧ (b.pause error).1 = none ∨
        (∀ limit ∈ p.maxAttempts, b.attempts + 1 < limit) ∧
          (b.pause error).1 = some ⟨operation, b.attempts + 1, p.delayAt n, error⟩) ∧
      b.reset.attempts = 0 ∧ b.reset = p.backoff operation := by
  refine ⟨rfl, fun n => ⟨?_, ?_, ?_⟩, fun k hk => ?_, fun n h m hle => ?_,
    fun operation n b hstands => ⟨fun error => ?_, rfl, hstands.reset_eq⟩⟩
  · exact Policy.delayAt_le_succ hfactor n
  · exact p.delayAt_le_border n
  · exact Policy.delayAt_le_pow hfactor n
  · exact Policy.delayAt_eq_min_pow hfactor hk
  · exact Policy.delayAt_eq_border hfactor h hle
  · have hpolicy : b.policy = p := by rw [hstands.eq_mk]
    have hoperation : b.operation = operation := by rw [hstands.eq_mk]
    have hcases := b.pause_cases error
    rw [hpolicy, hoperation, hstands.delay] at hcases
    exact hcases.imp (fun h => ⟨h.1, congrArg Prod.fst h.2⟩) fun h => ⟨h.1, congrArg Prod.fst h.2⟩

/-- One second, tripled up to five. -/
theorem Backoff.delays_grow_tripled :
    (1 : ℚ) ≤ 3 ∧
    let p : Policy ℚ := ⟨.ofSeconds 1, 3, .ofSeconds 5, some 6⟩
    p.delayAt 0 = .ofSeconds 1 ∧ p.delayAt 1 = .ofSeconds 3 ∧ p.delayAt 2 = .ofSeconds 5 ∧
      (p.backoff "capped").reset.attempts = 0 := by
  have hfactor : (1 : ℚ) ≤ 3 := by norm_num
  obtain ⟨hfirst, _, hwhole, _, hstands⟩ :=
    Backoff.delays_grow ⟨.ofSeconds 1, 3, .ofSeconds 5, some 6⟩ hfactor
  have hpow := hwhole 3 rfl
  refine ⟨hfactor, hfirst, ?_, ?_, (hstands "capped" 0 _ .begun).2.1⟩
  · rw [hpow 1]
    decide
  · rw [hpow 2]
    decide

end CatalogSync
