import CatalogSync.Schedule.Scheduler

/-!
# Scripted time

Time that passes only in pauses, in whole milliseconds, with shutdown requests that come when the
script says. Only the first of them counts. It takes effect while a pause lasts: one that is due at
the very moment a pause ends comes with the next pause.
-/

namespace CatalogSync

structure ScriptedClock where
  /-- Nanoseconds since the start. -/
  now : Nat
  /-- When the first shutdown request is due that has not taken effect. -/
  due : Option Nat
  cancelled : Bool

namespace ScriptedClock

def start : ScriptedClock := ⟨0, none, false⟩

/-- Have the shutdown requested after some time. Requests that are due earlier stay. -/
def cancelAfter (span : Span) (c : ScriptedClock) : ScriptedClock :=
  let t := c.now + span
  { c with due := some ((c.due.map (min t)).getD t) }

def cancel (c : ScriptedClock) : ScriptedClock := { c with cancelled := true }

/-- When a pause from now on ends: with the millisecond that its last moment lies in. -/
def wake (c : ScriptedClock) (span : Span) : Nat := (c.now + span + 999999) / 1000000 * 1000000

/-- When a request takes effect in a pause up to some time, if one does. -/
def requestBefore (c : ScriptedClock) (wake : Nat) : Option Nat :=
  (c.due.filter (· < wake)).map (max c.now)

def sleep (span : Span) (c : ScriptedClock) : Bool × ScriptedClock :=
  if c.cancelled then (true, c)
  else
    match c.requestBefore (c.wake span) with
    | some t => (true, { c with now := t, cancelled := true })
    | none => (false, { c with now := c.wake span })

def pause (span : Span) (c : ScriptedClock) : ScriptedClock :=
  { c with
    now := c.wake span
    cancelled := c.cancelled || (c.requestBefore (c.wake span)).isSome }

def clock : Clock ScriptedClock :=
  ⟨fun c => c.now / 1000000, ScriptedClock.cancelled, sleep, pause⟩

end ScriptedClock

/-- A clock that is a part of the world. -/
def Clock.within {σ ω : Type} (c : Clock σ) (get : ω → σ) (set : σ → ω → ω) : Clock ω where
  now w := c.now (get w)
  isCancelled w := c.isCancelled (get w)
  sleep pause w :=
    let (cancelled, s) := c.sleep pause (get w)
    (cancelled, set s w)
  pause span w := set (c.pause span (get w)) w

end CatalogSync
