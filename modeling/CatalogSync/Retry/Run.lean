import CatalogSync.Call
import CatalogSync.Retry.Backoff

/-!
# Retrying a call

A call that fails with a transient error is repeated after a pause until it succeeds, fails in
another way, or has used up its attempts. Every retry loop of the library is this one. What a pause
does to the world is a parameter: where nobody can see time pass, it does nothing.
-/

namespace CatalogSync

/-- Errors that a retry loop can judge and report. -/
class Retryable (ε : Type) where
  isTransient : ε → Bool
  message : ε → String

instance : Retryable SourceError := ⟨SourceError.isTransient, SourceError.message⟩

instance : Retryable LoadError := ⟨LoadError.isTransient, LoadError.message⟩

instance : Retryable PipelineError := ⟨PipelineError.isTransient, PipelineError.message⟩

/-- A world, where the retries stand, and the notices given so far, the last one first. -/
structure Retrying (φ σ : Type) where
  world : σ
  backoff : Backoff φ
  notices : List Notice

variable {φ ε σ α : Type} [Growth φ] [Retryable ε]

/-- One attempt. No answer means that a pause was taken and the next attempt is due. -/
def attemptOnce (pause : Span → σ → σ) (call : Call ε σ α) :
    Call ε (Retrying φ σ) (Option α) := fun r =>
  match call r.world with
  | (.ok a, world) => (.ok (some a), { r with world })
  | (.error e, world) =>
    if Retryable.isTransient e then
      match r.backoff.pause (Retryable.message e) with
      | (some notice, backoff) =>
        (.ok none, ⟨pause notice.delay world, backoff, notice :: r.notices⟩)
      | (none, backoff) => (.error e, { r with world, backoff })
    else (.error e, { r with world })
  | (.unfinished, world) => (.unfinished, { r with world })

/-- Repeat a call under a policy: how it ends, the world it leaves, and the notices in order. -/
def Policy.run (p : Policy φ) (pause : Span → σ → σ) (operation : String) (allowance : Nat)
    (call : Call ε σ α) (world : σ) : Outcome ε α × σ × List Notice :=
  let (outcome, r) := (attemptOnce pause call).untilSome allowance ⟨world, p.backoff operation, []⟩
  (outcome, r.world, r.notices.reverse)

/-- Repeat a call under a policy, with nobody watching the notices. What is kept is how the call
ends and what world it leaves. -/
def Policy.retryPausing (p : Policy φ) (pause : Span → σ → σ) (operation : String)
    (allowance : Nat) (call : Call ε σ α) : Call ε σ α := fun world =>
  let (outcome, world, _) := p.run pause operation allowance call world
  (outcome, world)

/-- Repeat a call under a policy where nobody sees time pass. Neither pauses nor notices are kept
here: what holds of them is said of `Policy.run`. -/
def Policy.retry (p : Policy φ) (operation : String) (allowance : Nat) (call : Call ε σ α) :
    Call ε σ α := p.retryPausing (fun _ world => world) operation allowance call

end CatalogSync
