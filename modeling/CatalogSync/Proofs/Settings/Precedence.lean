import CatalogSync.Proofs.Settings.Acceptance
import CatalogSync.Proofs.Settings.Leaves
import CatalogSync.Settings.Load
import Mathlib

/-!
# Which layer counts

Settings are taken from layers one by one: each is what the highest layer that writes it says there,
read as its type, or its default (`Settings.isTaken_of_ofTree`). What is built in agrees with the
defaults and so need not be looked at; the command line counts as the highest layer. So a layer that
says more of one setting leaves the others as they are, and what the layers come to is checked as a
whole (`SettingsSources.load_leaf_by_leaf`).

A layer may put tables in place of sections, but nothing else. A setting counts as written where a
layer puts something other than an empty table.
-/

namespace CatalogSync

open SettingsTree

namespace SettingsTree

/-! ## The highest layer -/

variable {names : List String} {layers layers' : List (List (String × Json))}

/-- A layer put below the others counts where none of them writes. -/
theorem highest?_cons (layer : List (String × Json)) :
    highest? names (layer :: layers) =
      (highest? names layers).or (written names layer).getLast? := by
  rw [highest?, List.reverse_cons, List.findSome?_append, List.findSome?_singleton]
  rfl

/-- A layer put on top counts wherever it writes. -/
theorem highest?_concat (layer : List (String × Json)) :
    highest? names (layers ++ [layer]) =
      (written names layer).getLast?.or (highest? names layers) := by
  rw [highest?, List.reverse_append, List.reverse_singleton, List.singleton_append,
    List.findSome?_cons]
  cases (written names layer).getLast? <;> rfl

/-- What the highest layer writes depends on nothing but what the layers write there. -/
theorem highest?_congr (h : layers.map (written names) = layers'.map (written names)) :
    highest? names layers = highest? names layers' := by
  have hmap (layers : List (List (String × Json))) :
      highest? names layers = (layers.map (written names)).reverse.findSome? List.getLast? := by
    rw [highest?, ← List.map_reverse, List.findSome?_map]
    rfl
  rw [hmap, hmap, h]

/-! ## One key more or less -/

/-- What a longer layer writes is what its parts write, one after the other. -/
theorem written_append (names : List String) (layer layer' : List (String × Json)) :
    written names (layer ++ layer') = written names layer ++ written names layer' := by
  have hwritten (layer : List (String × Json)) :
      written names layer = layer.flatMap fun m =>
        (under names [⟨address m.1, m.2⟩]).filter (!·.isEmptyTable) := by
    rw [written, writes, List.map_eq_flatMap, under_flatMap, List.filter_flatMap]
  rw [hwritten, hwritten, hwritten, List.flatMap_append]

/-- A single entry of a layer writes between what stands before it and what stands behind it. -/
theorem written_append_cons (names : List String) (before after : List (String × Json))
    (m : String × Json) :
    written names (before ++ m :: after) =
      written names before ++ (written names [m] ++ written names after) := by
  rw [written_append, ← List.singleton_append, written_append]

/-- A layer, and the same layer with one key of a section more. -/
inductive AddsKey (part key : String) : List (String × Json) → List (String × Json) → Prop
  /-- The key is addressed. -/
  | address {before after : List (String × Json)} {entry n name : String} (value : Json) :
    address entry = [.name n, .name name] → lowered n = part → lowered name = key →
    AddsKey part key (before ++ after) (before ++ (entry, value) :: after)
  /-- The key comes with a table. -/
  | table {before after : List (String × Json)} {entry n name : String} (value : Json) :
    address entry = [.name n] → lowered n = part → lowered name = key →
    AddsKey part key (before ++ after) (before ++ (entry, .obj [(name, value)]) :: after)
  /-- The key is put into a table. -/
  | member {before after ms ms' : List (String × Json)} {entry n name : String} (value : Json) :
    address entry = [.name n] → lowered n = part → lowered name = key →
    AddsKey part key (before ++ (entry, .obj (ms ++ ms')) :: after)
      (before ++ (entry, .obj (ms ++ (name, value) :: ms')) :: after)

/-- An entry writes under the name that its address begins with, and nowhere else. -/
theorem written_singleton {entry n : String} {steps : List Step}
    (h : address entry = .name n :: steps) (value : Json) (name : String) (names : List String) :
    written (name :: names) [(entry, value)] =
      if lowered n = name then (under names [⟨steps, value⟩]).filter (!·.isEmptyTable) else [] := by
  rw [written, writes, List.map_singleton, h, under, List.flatMap_singleton, Write.under]
  split
  · rfl
  · rw [under_nil]
    rfl

/-- One key of a section more is nothing more under names that lead elsewhere. -/
theorem AddsKey.written_eq {part key name : String} {names : List String}
    {layer layer' : List (String × Json)} (h : AddsKey part key layer layer')
    (hname : name = part → ∃ other rest, names = other :: rest ∧ key ≠ other) :
    written (name :: names) layer' = written (name :: names) layer := by
  cases h with
  | @address before after entry n m value haddress hpart hkey =>
    have hnothing : written (name :: names) [(entry, value)] = [] := by
      rw [written_singleton haddress, ite_eq_right_iff]
      intro hn
      obtain ⟨other, rest, rfl, hother⟩ := hname (hn.symm.trans hpart)
      rw [under, List.flatMap_singleton, Write.under, if_neg (hkey.trans_ne hother), under_nil,
        List.filter_nil]
    rw [written_append_cons, hnothing, List.nil_append, written_append]
  | @table before after entry n m value haddress hpart hkey =>
    have hnothing : written (name :: names) [(entry, .obj [(m, value)])] = [] := by
      rw [written_singleton haddress, ite_eq_right_iff]
      intro hn
      obtain ⟨other, rest, rfl, hother⟩ := hname (hn.symm.trans hpart)
      rw [under, List.flatMap_singleton, Write.under, List.filterMap_cons,
        if_neg (hkey.trans_ne hother), List.filterMap_nil, under_nil, List.filter_nil]
    rw [written_append_cons, hnothing, List.nil_append, written_append]
  | @member before after ms ms' entry n m value haddress hpart hkey =>
    have hsame : written (name :: names) [(entry, .obj (ms ++ (m, value) :: ms'))] =
        written (name :: names) [(entry, .obj (ms ++ ms'))] := by
      rw [written_singleton haddress, written_singleton haddress]
      refine ite_congr rfl (fun hn => ?_) fun _ => rfl
      obtain ⟨other, rest, rfl, hother⟩ := hname (hn.symm.trans hpart)
      simp only [under, List.flatMap_singleton, Write.under, List.filterMap_append,
        List.filterMap_cons, if_neg (hkey.trans_ne hother)]
    rw [written_append_cons, hsame, ← written_append_cons]

/-- One key of a section more is nothing more of any other setting. -/
theorem AddsKey.written_eq_of_ne {c : SettingsSection} (hc : c ∈ Settings.sections) {key : String}
    {layer layer' : List (String × Json)} (h : AddsKey c.name key layer layer') :
    ∀ x ∈ Settings.leaves, x.names ≠ [c.name, key] →
      written x.names layer' = written x.names layer := by
  have hlogLevel : ∀ c ∈ Settings.sections, c.name ≠ "log_level" := by decide
  refine Settings.forall_mem_leaves.2 ⟨fun _ => ?_, fun c' hc' x hx hne => ?_⟩
  · exact h.written_eq fun hname => absurd hname.symm (hlogLevel c hc)
  · obtain ⟨name, hx⟩ := Settings.exists_names_eq hc' hx
    change c'.name :: x.names ≠ [c.name, key] at hne
    change written (c'.name :: x.names) layer' = written (c'.name :: x.names) layer
    rw [hx] at hne ⊢
    refine h.written_eq fun hname => ⟨name, [], rfl, ?_⟩
    rintro rfl
    exact hne (by rw [hname])

/-- Layers that differ in one key of a section write the same of every other setting. -/
theorem written_eq_of_eqvGen {c : SettingsSection} (hc : c ∈ Settings.sections) {key : String}
    {layer layer' : List (String × Json)} (h : Relation.EqvGen (AddsKey c.name key) layer layer')
    {x : Setting Settings} (hx : x ∈ Settings.leaves) (hne : x.names ≠ [c.name, key]) :
    written x.names layer' = written x.names layer := by
  induction h with
  | rel _ _ hadds => exact hadds.written_eq_of_ne hc x hx hne
  | refl => rfl
  | symm _ _ _ ih => exact ih.symm
  | trans _ _ _ _ _ ih ih' => exact ih'.trans ih

/-! ## Sections that stay tables -/

/-- A layer that puts nothing but tables in place of the sections. -/
def KeepsSections (layer : List (String × Json)) : Prop :=
  ∀ c ∈ Settings.sections, ∀ w ∈ under [c.name] (writes layer), w.IsTabular

/-- A layer that keeps the sections keeps a table at every name on the way to a setting. -/
theorem KeepsSections.keepTables {layer : List (String × Json)} (h : KeepsSections layer) :
    ∀ x ∈ Settings.leaves, KeepTables x.names (writes layer) := by
  have hroot : ∀ w ∈ writes layer, w.IsTabular := fun _ => isTabular_of_mem_writes
  refine Settings.forall_mem_leaves.2 ⟨⟨hroot, trivial⟩, fun c hc x hx => ?_⟩
  obtain ⟨name, hname⟩ := Settings.exists_names_eq hc hx
  change KeepTables (c.name :: x.names) (writes layer)
  rw [hname]
  exact ⟨hroot, h c hc, trivial⟩

end SettingsTree

/-! ## Settings from layers -/

namespace Setting

variable {dirs : UserDirs} {layers layers' : List (List (String × Json))} {x : Setting Settings}
  {s s' : Settings}

/-- The setting is what the highest layer that writes it writes there, converted to its type, or its
default if no layer writes it. -/
def IsTaken (x : Setting Settings) (dirs : UserDirs) (layers : List (List (String × Json)))
    (s : Settings) : Prop :=
  match highest? x.names layers with
  | some w => w.address = [] ∧ x.read w.value = .ok (x.get s)
  | none => x.get s = x.get (.standard dirs)

/-- What a setting is taken from, and what is made of it, depends on nothing but the highest layer
that writes it. -/
theorem IsTaken.congr (h : x.IsTaken dirs layers s)
    (hhighest : highest? x.names layers' = highest? x.names layers) (hget : x.get s' = x.get s) :
    x.IsTaken dirs layers' s' := by
  rw [IsTaken, hhighest, hget]
  exact h

/-- Layers that come to the same at a setting give it the same value. -/
theorem IsTaken.get_eq (h : x.IsTaken dirs layers s) (h' : x.IsTaken dirs layers' s')
    (hsame : highest? x.names layers = highest? x.names layers') : x.get s = x.get s' := by
  rw [IsTaken] at h h'
  rw [hsame] at h
  cases hhighest : highest? x.names layers' with
  | none =>
    rw [hhighest] at h h'
    exact h.trans h'.symm
  | some w =>
    rw [hhighest] at h h'
    exact Except.ok.inj (h.2.symm.trans h'.2)

end Setting

/-- A tree that is accepted was read as settings without a conversion that fails. -/
theorem SettingsSources.settings_of_ofTree {dirs : UserDirs} {tree : Json} {m : Settings}
    (h : ofTree dirs tree = .ok m) : Coerced.reading.settings dirs tree = .ok m := by
  unfold ofTree at h
  split at h
  · next hread =>
    cases h
    exact hread
  · cases h

namespace Settings

variable {dirs : UserDirs} {layers : List (List (String × Json))} {m : Settings}

/-- What the built-in layer writes: five settings, each at its own address. -/
theorem writes_builtInLayer (dirs : UserDirs) : writes (builtInLayer dirs) = [
    ⟨[.name "log_level"], .str "info"⟩,
    ⟨[.name "source", .name "batch_size"], .int 500⟩,
    ⟨[.name "destination", .name "batch_size"], .int 1000⟩,
    ⟨[.name "scheduler", .name "sleep_secs"], .int 60⟩,
    ⟨[.name "state", .name "cursor_file"], .str dirs.cursorFile⟩] := by
  have hlogLevel : address "log_level" = [.name "log_level"] := by decide
  have hsource : address "source.batch_size" = [.name "source", .name "batch_size"] := by decide
  have hdestination :
    address "destination.batch_size" = [.name "destination", .name "batch_size"] := by decide
  have hscheduler : address "scheduler.sleep_secs" = [.name "scheduler", .name "sleep_secs"] := by
    decide
  have hstate : address "state.cursor_file" = [.name "state", .name "cursor_file"] := by decide
  simp only [writes, builtInLayer, List.map_cons, List.map_nil, hlogLevel, hsource, hdestination,
    hscheduler, hstate]
  rfl

/-- The built-in layer addresses settings one by one and puts nothing in place of a section. -/
theorem keepsSections_builtInLayer (dirs : UserDirs) : KeepsSections (builtInLayer dirs) := by
  rw [KeepsSections, writes_builtInLayer]
  exact of_decide_eq_true rfl

/-- The built-in layer agrees with the defaults. -/
theorem isTaken_builtInLayer (dirs : UserDirs) :
    ∀ x ∈ leaves, x.IsTaken dirs [builtInLayer dirs] (.standard dirs) := by
  have hhighest (names : List String) : highest? names [builtInLayer dirs] =
      ((under names (writes (builtInLayer dirs))).filter (!·.isEmptyTable)).getLast? := by
    rw [highest?, List.reverse_singleton, List.findSome?_singleton]
    rfl
  simp only [Setting.IsTaken, hhighest, writes_builtInLayer, forall_mem_leaves, sections,
    List.forall_mem_cons, SourceSettings.settings, DestinationSettings.settings,
    IndexSettings.settings, SchedulerSettings.settings, StateSettings.settings,
    RetrySettings.settings, StartupSettings.settings, StreamSettings.settings, Setting.within]
  exact ⟨⟨rfl, rfl⟩, ⟨trivial, ⟨rfl, rfl⟩, by simp⟩, ⟨trivial, ⟨rfl, rfl⟩, trivial, by simp⟩,
    ⟨trivial, trivial, trivial, by simp⟩, ⟨⟨rfl, rfl⟩, by simp⟩, ⟨⟨rfl, rfl⟩, by simp⟩,
    ⟨trivial, trivial, trivial, trivial, by simp⟩, ⟨trivial, by simp⟩,
    ⟨trivial, trivial, trivial, trivial, trivial, trivial, by simp⟩, by simp⟩

/-- In the tree of layers that keep the sections, what stands for a section is a table. -/
theorem isTable_section (hsections : ∀ layer ∈ layers, KeepsSections layer) :
    ∀ c ∈ sections, ∀ j ∈ get? (ofLayers layers) c.name, IsTable j := by
  intro c hc
  have hat : get? (ofLayers layers) c.name = _ :=
    at?_ofLayers (List.cons_ne_nil c.name []) fun layer _ =>
      ⟨fun _ => isTabular_of_mem_writes, trivial⟩
  rw [hat]
  refine isTable_after (fun w hw => ?_) nofun
  obtain ⟨layer, hlayer, hmem⟩ := List.mem_flatMap.1 hw
  exact hsections layer hlayer c hc w hmem

/-- The settings that layers make are what the highest layers write, setting by setting. -/
theorem isTaken_of_ofTree (hsections : ∀ layer ∈ layers, KeepsSections layer)
    (h : SettingsSources.ofTree dirs (ofLayers layers) = .ok m) :
    ∀ x ∈ leaves, x.IsTaken dirs layers m := by
  intro x hx
  have hread : x.IsRead (some (ofLayers layers)) (.standard dirs) m := by
    have hparts := isTable_section hsections
    obtain ⟨ms, hms⟩ := isTable_ofLayers layers
    rw [hms] at hparts h ⊢
    exact isRead_of_settings hparts (SettingsSources.settings_of_ofTree h) x hx
  obtain ⟨hnone, hsome⟩ := highest?_of_at? (names_ne_nil x hx)
    fun layer hlayer => (hsections layer hlayer).keepTables x hx
  rw [Setting.IsRead] at hread
  rw [Setting.IsTaken]
  cases hat : at? x.names (some (ofLayers layers)) with
  | none =>
    rw [hat] at hread
    rw [hnone hat]
    exact hread
  | some j =>
    rw [hat] at hread
    rw [hsome j hat (x.isScalar_of_read hread)]
    exact ⟨rfl, hread⟩

/-- What layers over the built-in one leave open has its default. -/
theorem isTaken_of_builtIn (h : ∀ x ∈ leaves, x.IsTaken dirs (builtInLayer dirs :: layers) m) :
    ∀ x ∈ leaves, x.IsTaken dirs layers m := by
  intro x hx
  rw [Setting.IsTaken]
  cases hhighest : highest? x.names layers with
  | some w =>
    have htaken := h x hx
    rw [Setting.IsTaken, highest?_cons, hhighest] at htaken
    exact htaken
  | none =>
    refine (h x hx).get_eq (isTaken_builtInLayer dirs x hx) ?_
    rw [highest?_cons, highest?_cons, hhighest]
    rfl

end Settings

/-! ## Loading -/

namespace SettingsSources

variable (s : SettingsSources) (dirs : UserDirs)

/-- What is said on the command line, as a layer. -/
def commandLine : List (String × Json) :=
  match s.logLevel with
  | some level => [("log_level", .str level)]
  | none => []

variable {s} {dirs}

/-- The command line writes the log level, if it says anything. -/
theorem writes_commandLine {level : String} (hlevel : s.logLevel = some level) :
    writes s.commandLine = [⟨[.name "log_level"], .str level⟩] := by
  have hkey : address "log_level" = [.name "log_level"] := by decide
  simp only [writes, commandLine, hlevel, List.map_cons, List.map_nil, hkey]

/-- The command line counts as the highest layer. It says nothing but the log level. -/
theorem isTaken_commandLine {layers : List (List (String × Json))} {m : Settings}
    (h : ∀ x ∈ Settings.leaves, x.IsTaken dirs layers m) :
    ∀ x ∈ Settings.leaves, x.IsTaken dirs (layers ++ [s.commandLine])
      { m with logLevel := s.logLevel.getD m.logLevel } := by
  cases hlevel : s.logLevel with
  | none =>
    refine fun x hx => (h x hx).congr ?_ rfl
    rw [commandLine, hlevel, highest?_concat, written, writes, List.map_nil, under_nil]
    rfl
  | some level =>
    have hwrites := writes_commandLine hlevel
    have hget : ∀ c ∈ Settings.sections, c.name ≠ "log_level" ∧
        c.get { m with logLevel := level } = c.get m := by
      simp [Settings.sections]
    refine Settings.forall_mem_leaves.2 ⟨?_, fun c hc x hx => ?_⟩
    · rw [Setting.IsTaken, highest?_concat, written, hwrites]
      exact ⟨rfl, rfl⟩
    · obtain ⟨hname, hsame⟩ := hget c hc
      have hlowered : lowered "log_level" = "log_level" := by decide
      have hnothing : written (c.name :: x.names) s.commandLine = [] := by
        rw [written, hwrites, under, List.flatMap_singleton, Write.under, hlowered,
          if_neg hname.symm, under_nil]
        rfl
      refine ((Settings.forall_mem_leaves.1 h).2 c hc x hx).congr ?_ (congrArg x.get hsame)
      change highest? (c.name :: x.names) (layers ++ [s.commandLine]) = _
      rw [highest?_concat, hnothing]
      rfl

variable (s) (dirs)

/-- What the layers come to before it is checked. -/
def merged : Except SettingsError Settings := do
  ofTree dirs (ofLayers (← s.layers dirs))

/-- No layer puts anything but tables in place of the sections. -/
def KeepsSections : Prop :=
  ∀ layers, s.layers dirs = .ok layers → ∀ layer ∈ layers, SettingsTree.KeepsSections layer

/-- Loading is merging the layers, a check of the whole, and the log level of the command line on
top. -/
theorem load_eq : s.load dirs = s.merged dirs >>= fun m =>
    match m.violation? with
    | some v => .error (.invalid v)
    | none => .ok { m with logLevel := s.logLevel.getD m.logLevel } := by
  unfold load merged
  cases s.layers dirs with
  | error e => rfl
  | ok layers =>
    change (ofTree dirs (ofLayers layers) >>= _) = (ofTree dirs (ofLayers layers) >>= _)
    refine congrArg _ (funext fun m => ?_)
    unfold Settings.validate
    cases m.violation? with
    | some v => rfl
    | none => cases s.logLevel <;> rfl

/-- The layers are those of the two files and the variables, over the built-in one. -/
theorem layers_eq_ok {layers : List (List (String × Json))} (h : s.layers dirs = .ok layers) :
    ∃ user named, fileLayer s.defaultFile = .ok user ∧ fileLayer s.namedFile.join = .ok named ∧
      layers = [builtInLayer dirs, user, named, Variables.layer s.environment] := by
  obtain ⟨user, huser, h⟩ := exists_of_bind_eq_ok h
  cases hfile : s.namedFile with
  | none =>
    simp only [hfile] at h
    cases h
    exact ⟨user, [], huser, rfl, rfl⟩
  | some file? =>
    cases file? with
    | none =>
      simp only [hfile] at h
      cases h
    | some file =>
      simp only [hfile] at h
      obtain ⟨named, hnamed, h⟩ := exists_of_bind_eq_ok h
      cases h
      exact ⟨user, named, huser, hnamed, rfl⟩

/-- Settings of which each is what the highest layer that writes it says. The user's file is the
lowest layer, the named file is over it, the variables are over both, and the highest is `top`. -/
def IsLayered (top : List (List (String × Json))) (m : Settings) : Prop :=
  ∃ user named, fileLayer s.defaultFile = .ok user ∧ fileLayer s.namedFile.join = .ok named ∧
    ∀ x ∈ Settings.leaves, x.IsTaken dirs (user :: named :: Variables.layer s.environment :: top) m

variable {s} {dirs} {s' : SettingsSources} {top : List (List (String × Json))} {m r r' : Settings}

/-- There are no two settings that the layers come to. -/
theorem IsLayered.eq (h : s.IsLayered dirs top r) (h' : s.IsLayered dirs top r') : r = r' := by
  obtain ⟨user, named, huser, hnamed, htaken⟩ := h
  obtain ⟨user', named', huser', hnamed', htaken'⟩ := h'
  obtain rfl := Except.ok.inj (huser.symm.trans huser')
  obtain rfl := Except.ok.inj (hnamed.symm.trans hnamed')
  exact Settings.ext_leaves fun x hx => (htaken x hx).get_eq (htaken' x hx) rfl

/-- The layers are merged before anything is read out of them. -/
theorem merged_eq {layers : List (List (String × Json))} (h : s.layers dirs = .ok layers) :
    s.merged dirs = ofTree dirs (ofLayers layers) := by
  rw [merged, h]
  rfl

/-- Merged settings are taken from the layers one by one. -/
theorem isTaken_of_merged (hsections : s.KeepsSections dirs) (h : s.merged dirs = .ok m)
    {layers : List (List (String × Json))} (hlayers : s.layers dirs = .ok layers) :
    ∀ x ∈ Settings.leaves, x.IsTaken dirs layers m := by
  rw [merged_eq hlayers] at h
  exact Settings.isTaken_of_ofTree (hsections layers hlayers) h

/-- The built-in layer agrees with the defaults, so merged settings are layered without it. -/
theorem isLayered_of_merged (hsections : s.KeepsSections dirs) (h : s.merged dirs = .ok m) :
    s.IsLayered dirs [] m := by
  obtain ⟨layers, hlayers, -⟩ := exists_of_bind_eq_ok h
  obtain ⟨user, named, huser, hnamed, rfl⟩ := layers_eq_ok s dirs hlayers
  exact ⟨user, named, huser, hnamed,
    Settings.isTaken_of_builtIn (isTaken_of_merged hsections h hlayers)⟩

/-- With the log level of the command line, settings are layered as if the command line were one
more layer on top. -/
theorem IsLayered.withLogLevel (h : s.IsLayered dirs [] m) :
    s.IsLayered dirs [s.commandLine] { m with logLevel := s.logLevel.getD m.logLevel } := by
  obtain ⟨user, named, huser, hnamed, htaken⟩ := h
  exact ⟨user, named, huser, hnamed, isTaken_commandLine htaken⟩

/-- Settings are loaded exactly if those that the layers come to pass the check. -/
theorem load_eq_ok_iff : s.load dirs = .ok r ↔ ∃ m, s.merged dirs = .ok m ∧
    m.violation? = none ∧ r = { m with logLevel := s.logLevel.getD m.logLevel } := by
  rw [load_eq]
  constructor
  · intro h
    obtain ⟨m, hmerged, h⟩ := exists_of_bind_eq_ok h
    cases hviolation : m.violation? with
    | some v =>
      rw [hviolation] at h
      cases h
    | none =>
      rw [hviolation] at h
      exact ⟨m, hmerged, hviolation, (Except.ok.inj h).symm⟩
  · rintro ⟨m, hmerged, hviolation, rfl⟩
    simp only [hmerged, bind, Except.bind, hviolation]

/-- Settings that are loaded are what the layers say one by one, the command line above all. -/
theorem isLayered_of_load (hsections : s.KeepsSections dirs) (h : s.load dirs = .ok r) :
    s.IsLayered dirs [s.commandLine] r := by
  obtain ⟨m, hmerged, -, rfl⟩ := load_eq_ok_iff.1 h
  exact (isLayered_of_merged hsections hmerged).withLogLevel

/-- The same with the built-in layer among the others, at the bottom. -/
theorem isTaken_of_load (hsections : s.KeepsSections dirs) (h : s.load dirs = .ok r)
    {layers : List (List (String × Json))} (hlayers : s.layers dirs = .ok layers) :
    ∀ x ∈ Settings.leaves, x.IsTaken dirs (layers ++ [s.commandLine]) r := by
  obtain ⟨m, hmerged, -, rfl⟩ := load_eq_ok_iff.1 h
  exact isTaken_commandLine (isTaken_of_merged hsections hmerged hlayers)

/-- A setting is the same wherever the layers write the same for it. -/
theorem get_eq_of_load (hsections : s.KeepsSections dirs) (hsections' : s'.KeepsSections dirs)
    (h : s.load dirs = .ok r) (h' : s'.load dirs = .ok r')
    {layers layers' : List (List (String × Json))} (hlayers : s.layers dirs = .ok layers)
    (hlayers' : s'.layers dirs = .ok layers') {x : Setting Settings} (hx : x ∈ Settings.leaves)
    (hwritten : (layers ++ [s.commandLine]).map (written x.names) =
      (layers' ++ [s'.commandLine]).map (written x.names)) : x.get r = x.get r' :=
  (isTaken_of_load hsections h hlayers x hx).get_eq (isTaken_of_load hsections' h' hlayers' x hx)
    (highest?_congr hwritten)

/-- A difference in one key of a section, in one layer, changes no other setting. -/
theorem get_eq_of_eqvGen (hsections : s.KeepsSections dirs) (hsections' : s'.KeepsSections dirs)
    (h : s.load dirs = .ok r) (h' : s'.load dirs = .ok r') (hlevel : s'.logLevel = s.logLevel)
    {lower upper : List (List (String × Json))} {layer layer' : List (String × Json)}
    (hlayers : s.layers dirs = .ok (lower ++ layer :: upper))
    (hlayers' : s'.layers dirs = .ok (lower ++ layer' :: upper))
    {c : SettingsSection} (hc : c ∈ Settings.sections) {key : String}
    (hdiffer : Relation.EqvGen (AddsKey c.name key) layer layer') :
    ∀ x ∈ Settings.leaves, x.names ≠ [c.name, key] → x.get r' = x.get r := by
  intro x hx hne
  have hwritten := written_eq_of_eqvGen hc hdiffer hx hne
  refine get_eq_of_load hsections' hsections h' h hlayers' hlayers hx ?_
  simp only [commandLine, hlevel, List.map_append, List.map_cons, hwritten]

/-- What the layers come to is what is checked. -/
theorem load_of_merged (h : s.merged dirs = .ok m) :
    ((∃ e, s.load dirs = .error e) ↔ ¬ m.IsAcceptable) ∧
      ∀ e, s.load dirs = .error e → ∃ v, m.violation? = some v ∧ e = .invalid v := by
  have hload := load_eq s dirs
  rw [h] at hload
  change s.load dirs = match m.violation? with | some v => _ | none => _ at hload
  rw [← Settings.violation?_eq_none_iff, hload]
  cases m.violation? with
  | none => simp
  | some v => simp

/-- The layers count setting by setting. The log level of the command line is over the variables,
these are over the named file, and this is over the user's file: settings that are loaded are, one
by one, what the highest of these layers that writes the setting says there, read as its type, or
the default if none writes it, and no other settings are. Setting, changing or leaving out one key
of a section in one of the layers leaves every other setting as it is. Once the layers together can
be read as settings, these are refused exactly if they are not acceptable, for a condition that they
violate, wherever their values come from.

No layer may put anything but a table in place of a section. An empty table writes nothing. The text
of a variable counts as parsed: what it says is the truth value or the number that the text spells,
and the text itself only if it spells neither. -/
theorem load_leaf_by_leaf (s : SettingsSources) (dirs : UserDirs)
    (hsections : s.KeepsSections dirs) :
    (∀ r, s.load dirs = .ok r → ∀ r', s.IsLayered dirs [s.commandLine] r' ↔ r' = r) ∧
    (∀ (s' : SettingsSources) (r r' : Settings) (lower upper : List (List (String × Json)))
      (layer layer' : List (String × Json)), ∀ c ∈ Settings.sections, ∀ key,
      Relation.EqvGen (AddsKey c.name key) layer layer' →
      s'.KeepsSections dirs → s'.logLevel = s.logLevel →
      s.layers dirs = .ok (lower ++ layer :: upper) →
      s'.layers dirs = .ok (lower ++ layer' :: upper) →
      s.load dirs = .ok r → s'.load dirs = .ok r' →
      ∀ x ∈ Settings.leaves, x.names ≠ [c.name, key] → x.get r' = x.get r) ∧
    ∀ m, s.merged dirs = .ok m → s.IsLayered dirs [] m ∧
      ((∃ e, s.load dirs = .error e) ↔ ¬ m.IsAcceptable) ∧
      ∀ e, s.load dirs = .error e → ∃ v, m.violation? = some v ∧ e = .invalid v := by
  refine ⟨fun r h r' => ⟨fun h' => h'.eq (isLayered_of_load hsections h), ?_⟩, ?_, ?_⟩
  · rintro rfl
    exact isLayered_of_load hsections h
  · intro s' r r' lower upper layer layer' c hc key hdiffer hsections' hlevel hlayers hlayers' h h'
    exact get_eq_of_eqvGen hsections hsections' h h' hlevel hlayers hlayers' hc hdiffer
  · exact fun m h => ⟨isLayered_of_merged hsections h, load_of_merged h⟩

/-- Sources that say something in every layer. -/
def stacked : SettingsSources where
  defaultFile := some ⟨.json,
    "\x7b\"indexes\":\x7b\"movies\":\"films\"\x7d,\"source.dsn\":\"db\"\x7d"⟩
  namedFile := some (some ⟨.json, "\x7b\"indexes.movies\":\"works\"\x7d"⟩)
  environment := [("ETL__SOURCE__BATCH_SIZE", "20")]
  logLevel := some "debug"

/-- The four layers of the stacked sources, as they are found. -/
theorem layers_stacked (dirs : UserDirs) : stacked.layers dirs = .ok [builtInLayer dirs,
    [("indexes", .obj [("movies", .str "films")]), ("source.dsn", .str "db")],
    [("indexes.movies", .str "works")], [("source.batch_size", .int 20)]] := by
  have huser : fileLayer stacked.defaultFile = .ok
      [("indexes", .obj [("movies", .str "films")]), ("source.dsn", .str "db")] := by
    cbv
  have hnamed : fileLayer (some ⟨.json, "\x7b\"indexes.movies\":\"works\"\x7d"⟩) =
      .ok [("indexes.movies", .str "works")] := by
    cbv
  have hvariables : Variables.layer stacked.environment = [("source.batch_size", .int 20)] := by
    cbv
  simp only [layers, huser, hvariables, bind, Except.bind]
  simp only [stacked, hnamed]

/-- None of them puts anything but a table in place of a section. -/
theorem keepsSections_stacked (dirs : UserDirs) : stacked.KeepsSections dirs := by
  intro layers hlayers
  obtain rfl := Except.ok.inj ((layers_stacked dirs).symm.trans hlayers)
  rw [List.forall_mem_cons]
  refine ⟨Settings.keepsSections_builtInLayer dirs, ?_⟩
  unfold SettingsTree.KeepsSections
  decide

/-- The highest layer counts for each setting, and the defaults for the rest. -/
theorem load_stacked (dirs : UserDirs) : stacked.load dirs = .ok {
    logLevel := "debug"
    source := ⟨"db", 20⟩
    indexes := { movies := "works" }
    state := ⟨dirs.cursorFile⟩ } := by
  have htree : ofLayers [builtInLayer dirs,
      [("indexes", .obj [("movies", .str "films")]), ("source.dsn", .str "db")],
      [("indexes.movies", .str "works")], [("source.batch_size", .int 20)]] = .obj [
        ("destination", .obj [("batch_size", .int 1000)]),
        ("indexes", .obj [("movies", .str "works")]), ("log_level", .str "info"),
        ("scheduler", .obj [("sleep_secs", .int 60)]),
        ("source", .obj [("batch_size", .int 20), ("dsn", .str "db")]),
        ("state", .obj [("cursor_file", .str dirs.cursorFile)])] := by
    rw [builtInLayer, Settings.standard]
    generalize dirs.cursorFile = cursorFile
    cbv
  refine load_eq_ok_iff.2 ⟨{
    source := ⟨"db", 20⟩
    indexes := { movies := "works" }
    state := ⟨dirs.cursorFile⟩ }, ?_, Settings.violation?_eq_none_iff.2 ?_, rfl⟩
  · rw [merged_eq (layers_stacked dirs), htree]
    rfl
  · constructor
    all_goals
      dsimp only
      decide

/-- A file, a file over it, a variable and the command line each have their say. -/
theorem load_leaf_by_leaf_stacked :
    stacked.KeepsSections (.ofHome "/home/app") ∧
    ∃ r, stacked.load (.ofHome "/home/app") = .ok r ∧ r.indexes.movies = "works" ∧
      r.source.dsn = "db" ∧ r.source.batchSize = 20 ∧ r.logLevel = "debug" ∧
      ∀ r', stacked.IsLayered (.ofHome "/home/app") [stacked.commandLine] r' ↔ r' = r := by
  have hsections := keepsSections_stacked (.ofHome "/home/app")
  have hload := load_stacked (.ofHome "/home/app")
  exact ⟨hsections, _, hload, rfl, rfl, rfl, rfl,
    (load_leaf_by_leaf stacked _ hsections).1 _ hload⟩

end SettingsSources

end CatalogSync
