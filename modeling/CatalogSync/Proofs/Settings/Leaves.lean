import CatalogSync.Proofs.Catalog.Cast
import CatalogSync.Proofs.Settings.Writes
import CatalogSync.Settings.Coercion

/-!
# The settings one by one

Settings are a log level and eight sections. Each single setting has names that lead to it in a
tree, a type that it is read as, and a place in the record. A tree whose sections are tables is read
setting by setting: what stands where the names lead is coerced to the type, and a setting that is
not there has its default (`Settings.isRead_of_settings`). The settings make up the record
(`Settings.ext_leaves`).
-/

namespace CatalogSync

namespace Coerced

variable {j : Json}

/-- What is read as a text is no list and no table. -/
theorem isScalar_of_string {s : String} (h : string j = .ok s) : j.IsScalar := by
  cases j <;> trivial

/-- What is read as a decimal is no list and no table. -/
theorem isScalar_of_float {x : Float} (h : float j = .ok x) : j.IsScalar := by
  cases j <;> trivial

/-- What is read as a whole number is no list and no table. -/
theorem isScalar_of_natural {type : String} {high n : Nat} (h : natural type high j = .ok n) :
    j.IsScalar := by
  cases j <;> trivial

/-- What is read as a whole number, or as none, is no list and no table. -/
theorem isScalar_of_optional {type : String} {high : Nat} {o : Option Nat}
    (h : Decoder.optional (natural type high) j = .ok o) : j.IsScalar := by
  cases j <;> trivial

end Coerced

/-- A field with a default is read from what is there. -/
theorem Fields.found_of_defaulted {α : Type} {find : String → Option Json} {name : String}
    {d : Decoder α} {default a : α} (h : (defaulted name d default).build find = .ok a) :
    match find name with
    | some j => d j = .ok a
    | none => a = default := by
  simp only [defaulted] at h
  cases hfind : find name with
  | some j =>
    rw [hfind] at h
    exact h
  | none =>
    rw [hfind] at h
    exact (Except.ok.inj h).symm

/-- A single setting in a record. -/
structure Setting (ρ : Type) where
  {α : Type}
  /-- The names that lead to it. -/
  names : List String
  read : Decoder α
  get : ρ → α
  isScalar_of_read : ∀ {j a}, read j = .ok a → j.IsScalar

namespace Setting

variable {ρ σ : Type}

/-- A setting of a record that is a part of another one. -/
def within (name : String) (get : σ → ρ) (x : Setting ρ) : Setting σ :=
  ⟨name :: x.names, x.read, x.get ∘ get, x.isScalar_of_read⟩

/-- The setting is what it is read as where its names lead, or its default if nothing is there. -/
def IsRead (x : Setting ρ) (tree : Option Json) (default r : ρ) : Prop :=
  match SettingsTree.at? x.names tree with
  | some j => x.read j = .ok (x.get r)
  | none => x.get r = x.get default

end Setting

/-- A section of the settings. -/
structure SettingsSection where
  {ρ : Type}
  name : String
  get : Settings → ρ
  settings : List (Setting ρ)

/-- The settings of a section. -/
def SettingsSection.leaves (c : SettingsSection) : List (Setting Settings) :=
  c.settings.map (.within c.name c.get)

open Coerced

def SourceSettings.settings : List (Setting SourceSettings) := [
  ⟨["dsn"], reading.string, SourceSettings.dsn, isScalar_of_string⟩,
  ⟨["batch_size"], reading.count, SourceSettings.batchSize, isScalar_of_natural⟩]

def DestinationSettings.settings : List (Setting DestinationSettings) := [
  ⟨["url"], reading.string, DestinationSettings.url, isScalar_of_string⟩,
  ⟨["batch_size"], reading.count, DestinationSettings.batchSize, isScalar_of_natural⟩,
  ⟨["timeout_secs"], reading.nat64, DestinationSettings.timeoutSecs, isScalar_of_natural⟩]

def IndexSettings.settings : List (Setting IndexSettings) := [
  ⟨["movies"], reading.string, IndexSettings.movies, isScalar_of_string⟩,
  ⟨["persons"], reading.string, IndexSettings.persons, isScalar_of_string⟩,
  ⟨["genres"], reading.string, IndexSettings.genres, isScalar_of_string⟩]

def SchedulerSettings.settings : List (Setting SchedulerSettings) := [
  ⟨["sleep_secs"], reading.nat64, SchedulerSettings.sleepSecs, isScalar_of_natural⟩]

def StateSettings.settings : List (Setting StateSettings) := [
  ⟨["cursor_file"], reading.string, StateSettings.cursorFile, isScalar_of_string⟩]

def RetrySettings.settings : List (Setting RetrySettings) := [
  ⟨["start_ms"], reading.nat64, RetrySettings.startMs, isScalar_of_natural⟩,
  ⟨["factor"], reading.float, RetrySettings.factor, isScalar_of_float⟩,
  ⟨["border_secs"], reading.nat64, RetrySettings.borderSecs, isScalar_of_natural⟩,
  ⟨["max_attempts"], .optional reading.nat32, RetrySettings.maxAttempts, isScalar_of_optional⟩]

def StartupSettings.settings : List (Setting StartupSettings) := [
  ⟨["max_attempts"], reading.nat32, StartupSettings.maxAttempts, isScalar_of_natural⟩]

def StreamSettings.settings : List (Setting StreamSettings) := [
  ⟨["film_work"], reading.string, StreamSettings.filmWork, isScalar_of_string⟩,
  ⟨["film_work_person"], reading.string, StreamSettings.filmWorkPerson, isScalar_of_string⟩,
  ⟨["film_work_genre"], reading.string, StreamSettings.filmWorkGenre, isScalar_of_string⟩,
  ⟨["film_work_mark"], reading.string, StreamSettings.filmWorkMark, isScalar_of_string⟩,
  ⟨["person"], reading.string, StreamSettings.person, isScalar_of_string⟩,
  ⟨["genre"], reading.string, StreamSettings.genre, isScalar_of_string⟩]

namespace Settings

/-- The sections of the settings. -/
def sections : List SettingsSection := [
  ⟨"source", Settings.source, SourceSettings.settings⟩,
  ⟨"destination", Settings.destination, DestinationSettings.settings⟩,
  ⟨"indexes", Settings.indexes, IndexSettings.settings⟩,
  ⟨"scheduler", Settings.scheduler, SchedulerSettings.settings⟩,
  ⟨"state", Settings.state, StateSettings.settings⟩,
  ⟨"retry", Settings.retry, RetrySettings.settings⟩,
  ⟨"startup", Settings.startup, StartupSettings.settings⟩,
  ⟨"streams", Settings.streams, StreamSettings.settings⟩]

/-- Every single setting. -/
def leaves : List (Setting Settings) :=
  ⟨["log_level"], reading.string, Settings.logLevel, isScalar_of_string⟩ ::
    sections.flatMap SettingsSection.leaves

example : leaves.length = 22 := rfl

/-- What holds of the log level and of the settings of every section holds of every setting. -/
theorem forall_mem_leaves {P : Setting Settings → Prop} :
    (∀ x ∈ leaves, P x) ↔
      P ⟨["log_level"], reading.string, Settings.logLevel, isScalar_of_string⟩ ∧
        ∀ c ∈ sections, ∀ x ∈ c.settings, P (x.within c.name c.get) := by
  simp only [leaves, List.forall_mem_cons, List.forall_mem_flatMap, SettingsSection.leaves,
    List.forall_mem_map]

/-- Every setting has a name. -/
theorem names_ne_nil : ∀ x ∈ leaves, x.names ≠ [] :=
  forall_mem_leaves.2 ⟨List.cons_ne_nil _ _, fun _ _ _ _ => List.cons_ne_nil _ _⟩

/-- One name leads to a setting of a section. -/
theorem exists_names_eq {c : SettingsSection} (hc : c ∈ sections) {x : Setting c.ρ}
    (hx : x ∈ c.settings) : ∃ name, x.names = [name] := by
  have hlength : ∀ c ∈ sections, ∀ x ∈ c.settings, x.names.length = 1 := by decide
  exact List.length_eq_one_iff.1 (hlength c hc x hx)

/-- Settings are what their single settings are. -/
theorem ext_leaves {s s' : Settings} (h : ∀ x ∈ leaves, x.get s = x.get s') : s = s' := by
  obtain ⟨_, ⟨⟩, ⟨⟩, ⟨⟩, ⟨⟩, ⟨⟩, ⟨⟩, ⟨⟩, ⟨⟩⟩ := s
  obtain ⟨_, ⟨⟩, ⟨⟩, ⟨⟩, ⟨⟩, ⟨⟩, ⟨⟩, ⟨⟩, ⟨⟩⟩ := s'
  simp only [forall_mem_leaves, sections, SourceSettings.settings, DestinationSettings.settings,
    IndexSettings.settings, SchedulerSettings.settings, StateSettings.settings,
    RetrySettings.settings, StartupSettings.settings, StreamSettings.settings, List.forall_mem_cons,
    Setting.within, Function.comp_apply] at h
  simp [h]

end Settings

/-! ## Reading the sections -/

variable {ms : List (String × Json)}

/-- A record that is read from a table is built from the members under its names. -/
theorem Coerced.build_of_record {α : Type} {type : String} {fields : Fields α} {a : α}
    (h : reading.record type fields (.obj ms) = .ok a) :
    fields.build (fun name => ms.lookup name) = .ok a :=
  @Fields.build_of_decode _ type _ _ _ h

namespace Coerced

open Fields

/-- The settings of the source are read one by one under their names, or are their defaults. -/
theorem isRead_source {r : SourceSettings} (h : reading.source (.obj ms) = .ok r) :
    ∀ x ∈ SourceSettings.settings, x.IsRead (some (.obj ms)) {} r := by
  replace h := build_of_record h
  simp only [build_seq_eq_ok, build_map_eq_ok] at h
  obtain ⟨_, ⟨_, hdsn, rfl⟩, _, hbatchSize, rfl⟩ := h
  simp only [SourceSettings.settings, List.forall_mem_cons]
  exact ⟨found_of_defaulted hdsn, found_of_defaulted hbatchSize, by simp⟩

/-- The settings of the destination are read one by one, or are their defaults. -/
theorem isRead_destination {r : DestinationSettings} (h : reading.destination (.obj ms) = .ok r) :
    ∀ x ∈ DestinationSettings.settings, x.IsRead (some (.obj ms)) {} r := by
  replace h := build_of_record h
  simp only [build_seq_eq_ok, build_map_eq_ok] at h
  obtain ⟨_, ⟨_, ⟨_, hurl, rfl⟩, _, hbatchSize, rfl⟩, _, htimeoutSecs, rfl⟩ := h
  simp only [DestinationSettings.settings, List.forall_mem_cons]
  exact ⟨found_of_defaulted hurl, found_of_defaulted hbatchSize,
    found_of_defaulted htimeoutSecs, by simp⟩

/-- The name of every index is read on its own, or is its default. -/
theorem isRead_indexes {r : IndexSettings} (h : reading.indexes (.obj ms) = .ok r) :
    ∀ x ∈ IndexSettings.settings, x.IsRead (some (.obj ms)) {} r := by
  replace h := build_of_record h
  simp only [build_seq_eq_ok, build_map_eq_ok] at h
  obtain ⟨_, ⟨_, ⟨_, hmovies, rfl⟩, _, hpersons, rfl⟩, _, hgenres, rfl⟩ := h
  simp only [IndexSettings.settings, List.forall_mem_cons]
  exact ⟨found_of_defaulted hmovies, found_of_defaulted hpersons, found_of_defaulted hgenres,
    by simp⟩

/-- The pause of the scheduler is read, or is its default. -/
theorem isRead_scheduler {type : String} {r : SchedulerSettings}
    (h : reading.scheduler type (.obj ms) = .ok r) :
    ∀ x ∈ SchedulerSettings.settings, x.IsRead (some (.obj ms)) {} r := by
  replace h := build_of_record h
  simp only [build_map_eq_ok] at h
  obtain ⟨_, hsleepSecs, rfl⟩ := h
  simp only [SchedulerSettings.settings, List.forall_mem_cons]
  exact ⟨found_of_defaulted hsleepSecs, by simp⟩

/-- The path of the cursor file is read, or is where the user's directories put it. -/
theorem isRead_state {dirs : UserDirs} {r : StateSettings}
    (h : reading.state dirs (.obj ms) = .ok r) :
    ∀ x ∈ StateSettings.settings, x.IsRead (some (.obj ms)) ⟨dirs.cursorFile⟩ r := by
  replace h := build_of_record h
  simp only [build_map_eq_ok] at h
  obtain ⟨_, hcursorFile, rfl⟩ := h
  simp only [StateSettings.settings, List.forall_mem_cons]
  exact ⟨found_of_defaulted hcursorFile, by simp⟩

/-- The settings of retries are read one by one, the limit being there or not. -/
theorem isRead_retry {r : RetrySettings} (h : reading.retry (.obj ms) = .ok r) :
    ∀ x ∈ RetrySettings.settings, x.IsRead (some (.obj ms)) {} r := by
  replace h := build_of_record h
  simp only [build_seq_eq_ok, build_map_eq_ok] at h
  obtain ⟨_, ⟨_, ⟨_, ⟨_, hstartMs, rfl⟩, _, hfactor, rfl⟩, _, hborderSecs, rfl⟩,
    _, hmaxAttempts, rfl⟩ := h
  simp only [RetrySettings.settings, List.forall_mem_cons]
  exact ⟨found_of_defaulted hstartMs, found_of_defaulted hfactor, found_of_defaulted hborderSecs,
    found_of_defaulted hmaxAttempts, by simp⟩

/-- The limit of the first check is read, or is its default. -/
theorem isRead_startup {r : StartupSettings} (h : reading.startup (.obj ms) = .ok r) :
    ∀ x ∈ StartupSettings.settings, x.IsRead (some (.obj ms)) {} r := by
  replace h := build_of_record h
  simp only [build_map_eq_ok] at h
  obtain ⟨_, hmaxAttempts, rfl⟩ := h
  simp only [StartupSettings.settings, List.forall_mem_cons]
  exact ⟨found_of_defaulted hmaxAttempts, by simp⟩

/-- The name of every stream is read on its own, or is its default. -/
theorem isRead_streams {r : StreamSettings} (h : reading.streams (.obj ms) = .ok r) :
    ∀ x ∈ StreamSettings.settings, x.IsRead (some (.obj ms)) {} r := by
  replace h := build_of_record h
  simp only [build_seq_eq_ok, build_map_eq_ok] at h
  obtain ⟨_, ⟨_, ⟨_, ⟨_, ⟨_, ⟨_, hfilmWork, rfl⟩, _, hfilmWorkPerson, rfl⟩, _, hfilmWorkGenre, rfl⟩,
    _, hfilmWorkMark, rfl⟩, _, hperson, rfl⟩, _, hgenre, rfl⟩ := h
  simp only [StreamSettings.settings, List.forall_mem_cons]
  exact ⟨found_of_defaulted hfilmWork, found_of_defaulted hfilmWorkPerson,
    found_of_defaulted hfilmWorkGenre, found_of_defaulted hfilmWorkMark, found_of_defaulted hperson,
    found_of_defaulted hgenre, by simp⟩

end Coerced

/-- A part that is a table or missing is read setting by setting. -/
theorem Setting.isRead_within {ρ σ : Type} {name : String} {get : σ → ρ}
    {settings : List (Setting ρ)} {d : Decoder ρ} {tree : Json} {default s : σ}
    (hfound : match SettingsTree.get? tree name with
      | some j => d j = .ok (get s)
      | none => get s = get default)
    (htable : ∀ j ∈ SettingsTree.get? tree name, SettingsTree.IsTable j)
    (hread : ∀ {ms r}, d (.obj ms) = .ok r →
      ∀ x ∈ settings, x.IsRead (some (.obj ms)) (get default) r) :
    ∀ x ∈ settings, (x.within name get).IsRead (some tree) default s := by
  intro x hx
  change match SettingsTree.at? x.names (SettingsTree.get? tree name) with
    | some j => x.read j = .ok (x.get (get s))
    | none => x.get (get s) = x.get (get default)
  cases hget : SettingsTree.get? tree name with
  | none =>
    rw [hget] at hfound
    rw [SettingsTree.at?_none, hfound]
  | some j =>
    rw [hget] at hfound
    obtain ⟨ms, rfl⟩ := htable j hget
    exact hread hfound x hx

/-- Settings are read setting by setting from a tree whose sections are tables. -/
theorem Settings.isRead_of_settings {dirs : UserDirs} {s : Settings}
    (htables : ∀ c ∈ sections, ∀ j ∈ SettingsTree.get? (.obj ms) c.name, SettingsTree.IsTable j)
    (h : reading.settings dirs (.obj ms) = .ok s) :
    ∀ x ∈ leaves, x.IsRead (some (.obj ms)) (.standard dirs) s := by
  replace h := build_of_record h
  simp only [Fields.build_seq_eq_ok, Fields.build_map_eq_ok] at h
  obtain ⟨_, ⟨_, ⟨_, ⟨_, ⟨_, ⟨_, ⟨_, ⟨_, ⟨_, hlogLevel, rfl⟩, _, hsource, rfl⟩,
    _, hdestination, rfl⟩, _, hindexes, rfl⟩, _, hscheduler, rfl⟩, _, hstate, rfl⟩,
    _, hretry, rfl⟩, _, hstartup, rfl⟩, _, hstreams, rfl⟩ := h
  refine forall_mem_leaves.2 ⟨Fields.found_of_defaulted hlogLevel, ?_⟩
  simp only [sections, List.forall_mem_cons] at htables ⊢
  obtain ⟨htsource, htdestination, htindexes, htscheduler, htstate, htretry, htstartup, htstreams,
    -⟩ := htables
  exact ⟨Setting.isRead_within (Fields.found_of_defaulted hsource) htsource isRead_source,
    Setting.isRead_within (Fields.found_of_defaulted hdestination) htdestination
      isRead_destination,
    Setting.isRead_within (Fields.found_of_defaulted hindexes) htindexes isRead_indexes,
    Setting.isRead_within (Fields.found_of_defaulted hscheduler) htscheduler isRead_scheduler,
    Setting.isRead_within (Fields.found_of_defaulted hstate) htstate isRead_state,
    Setting.isRead_within (Fields.found_of_defaulted hretry) htretry isRead_retry,
    Setting.isRead_within (Fields.found_of_defaulted hstartup) htstartup isRead_startup,
    Setting.isRead_within (Fields.found_of_defaulted hstreams) htstreams isRead_streams, by simp⟩

end CatalogSync
