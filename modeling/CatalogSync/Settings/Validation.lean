import CatalogSync.Settings.Basic

/-!
# Which settings are accepted

The conditions that settings have to meet before a process starts with them, and what is said
about the first one that is violated.
-/

namespace CatalogSync

/-- A condition that settings violate. -/
inductive Violation where
  | noSourceBatch
  /-- A page of rows may touch more documents than fit into one bulk request. -/
  | smallDestinationBatch (destination source : Nat)
  /-- Pauses would get shorter. -/
  | shrinkingFactor (factor : Float)
  | noStart
  | noStartupAttempts
  | emptyStream
  | repeatedStream (name : String)

def Violation.message : Violation → String
  | noSourceBatch => "source.batch_size must be > 0"
  | smallDestinationBatch destination source =>
    s!"destination.batch_size ({destination}) must be >= source.batch_size ({source})"
  | shrinkingFactor factor =>
    "retry.factor must be >= 1.0, got " ++ Decimal.Layout.plain.text factor
  | noStart => "retry.start_ms must be > 0"
  | noStartupAttempts => "startup.max_attempts must be > 0"
  | emptyStream => "stream names must not be empty"
  | repeatedStream name => s!"stream name '{name}' is used twice"

/-- Why there are no settings to start with. -/
inductive SettingsError where
  | invalid (violation : Violation)
  /-- A layer could not be read, or the layers together are no settings. -/
  | load

/-- The first name that is empty or among those before it. -/
def firstBadName (before : List String) : List String → Option Violation
  | [] => none
  | name :: rest =>
    if name = "" then some .emptyStream
    else if name ∈ before then some (.repeatedStream name)
    else firstBadName (before ++ [name]) rest

theorem ite_some_eq_none_iff {α : Type} {p : Prop} [Decidable p] {a : α} {o : Option α} :
    (if p then some a else o) = none ↔ ¬ p ∧ o = none := by
  by_cases h : p <;> simp [h]

/-- None of some names is bad if they are distinct, new and not empty. -/
theorem firstBadName_eq_none_iff {before names : List String} :
    firstBadName before names = none ↔
      (∀ name ∈ names, name ≠ "") ∧ names.Nodup ∧ ∀ name ∈ names, name ∉ before := by
  induction names generalizing before with
  | nil => simp [firstBadName]
  | cons name rest ih =>
    rw [firstBadName, ite_some_eq_none_iff, ite_some_eq_none_iff, ih, List.nodup_cons]
    grind

namespace Settings

/-- The first violated condition. -/
def violation? (s : Settings) : Option Violation :=
  if s.source.batchSize = 0 then some .noSourceBatch
  else if s.destination.batchSize < s.source.batchSize then
    some (.smallDestinationBatch s.destination.batchSize s.source.batchSize)
  else if s.retry.factor.isNaN || s.retry.factor < 1 then some (.shrinkingFactor s.retry.factor)
  else if s.retry.startMs = 0 then some .noStart
  else if s.startup.maxAttempts = 0 then some .noStartupAttempts
  else firstBadName [] s.streams.names

/-- Settings that pass the check have distinct streams. -/
theorem nodup_names {s : Settings} (h : s.violation? = none) : s.streams.names.Nodup := by
  unfold violation? at h
  repeat' split at h
  all_goals try cases h
  exact (firstBadName_eq_none_iff.1 h).2.1

def validate (s : Settings) : Except SettingsError Unit :=
  match s.violation? with
  | some v => .error (.invalid v)
  | none => .ok ()

end Settings

def SettingsError.message : SettingsError → String
  | invalid v => "Invalid configuration: " ++ v.message
  | load => "Configuration error: the layers cannot be read as settings"

end CatalogSync
