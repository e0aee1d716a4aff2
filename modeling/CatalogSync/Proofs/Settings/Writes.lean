import CatalogSync.Proofs.Catalog.Documents
import CatalogSync.Settings.Tree
import Mathlib.Data.List.Induction

/-!
# What layers write where

A layer is a list of values on their way to addresses. Seen from under a name, such a write leads on
from there, or puts a table whose members are seen one by one. As long as what is written under some
names keeps a table where the names lead, what stands there in the tree of some layers is what the
writes seen from there make of nothing (`at?_ofLayers`). Of writes to one place only the last
counts; an empty table changes nothing.
-/

namespace CatalogSync

/-- Neither a list nor a table. -/
def Json.IsScalar : Json → Prop
  | .arr _ | .obj _ => False
  | _ => True

namespace SettingsTree

/-! ## Tables -/

/-- A table, of whatever. -/
def IsTable (j : Json) : Prop := ∃ ms, j = .obj ms

/-- A table is no scalar. -/
theorem IsTable.not_isScalar {j : Json} (h : IsTable j) : ¬ j.IsScalar := by
  obtain ⟨ms, rfl⟩ := h
  exact id

/-- Setting a name makes a table of whatever was there. -/
theorem isTable_set (tree : Json) (name : String) (value : Json) : IsTable (set tree name value) :=
  ⟨_, rfl⟩

/-- A name that is set has its value, and every other name has what it had. -/
theorem get?_set (tree value : Json) (name other : String) :
    get? (set tree name value) other = if other = name then some value else get? tree other :=
  Json.lookup_insertMember name other value (members tree)

/-! ## Writes -/

/-- A value on its way to an address. -/
structure Write where
  address : List Step
  value : Json

/-- What a layer writes, in order. -/
def writes (layer : List (String × Json)) : List Write :=
  layer.map fun m => ⟨address m.1, m.2⟩

namespace Write

/-- What a write makes of what is at the place from which its address leads on. -/
def onto (found : Option Json) : Write → Json
  | ⟨[], .obj ms⟩ => putAll (found.getD (.obj [])) ms
  | ⟨[], value⟩ => value
  | ⟨steps, value⟩ => putAt value steps (found.getD .null)

/-- A write as it is seen from under a name. -/
def under (name : String) : Write → List Write
  | ⟨.name n :: rest, value⟩ => if lowered n = name then [⟨rest, value⟩] else []
  | ⟨[], .obj ms⟩ => ms.filterMap fun m => if lowered m.1 = name then some ⟨[], m.2⟩ else none
  | _ => []

/-- A write that keeps a table where it is seen from. -/
def IsTabular : Write → Prop
  | ⟨.name _ :: _, _⟩ => True
  | ⟨[], .obj _⟩ => True
  | _ => False

instance : DecidablePred IsTabular
  | ⟨.name _ :: _, _⟩ => isTrue trivial
  | ⟨.index _ :: _, _⟩ => isFalse id
  | ⟨[], .obj _⟩ => isTrue trivial
  | ⟨[], .null⟩ | ⟨[], .bool _⟩ | ⟨[], .int _⟩ | ⟨[], .float _⟩ | ⟨[], .str _⟩ | ⟨[], .arr _⟩ =>
    isFalse id

/-- An empty table, which is put over what is there without a change. -/
def isEmptyTable : Write → Bool
  | ⟨[], .obj []⟩ => true
  | _ => false

end Write

/-- What some writes, one after the other, make of what is at a place. -/
def after (ws : List Write) (found : Option Json) : Option Json :=
  ws.foldl (fun found w => some (w.onto found)) found

/-- Writes as they are seen from under some names. -/
def under : List String → List Write → List Write
  | [], ws => ws
  | name :: names, ws => under names (ws.flatMap (Write.under name))

/-- Where nothing is written, nothing is seen from anywhere. -/
theorem under_nil (names : List String) : under names [] = [] := by
  induction names with
  | nil => rfl
  | cons name names ih => exact ih

/-- What is under some names. -/
def at? : List String → Option Json → Option Json
  | [], found => found
  | name :: names, found => at? names (found.bind (get? · name))

/-- Nothing is under any names where nothing is. -/
theorem at?_none (names : List String) : at? names none = none := by
  induction names with
  | nil => rfl
  | cons name names ih => exact ih

/-- At every name that leads on, the writes keep a table. -/
def KeepTables : List String → List Write → Prop
  | [], _ => True
  | name :: names, ws => (∀ w ∈ ws, w.IsTabular) ∧ KeepTables names (ws.flatMap (Write.under name))

/-! ## Writing -/

/-- Putting a value under a name is a write that has arrived there. -/
theorem put_eq (tree : Json) (name : String) (value : Json) :
    put tree name value =
      set tree (lowered name) (Write.onto (get? tree (lowered name)) ⟨[], value⟩) := by
  cases value <;> simp only [put, Write.onto]

/-- Putting a value at an address is to write onto what is under its first name. -/
theorem putAt_name (tree : Json) (name : String) (rest : List Step) (value : Json) :
    putAt value (.name name :: rest) tree =
      set tree (lowered name) (Write.onto (get? tree (lowered name)) ⟨rest, value⟩) := by
  cases rest with
  | nil => rw [putAt, put_eq]
  | cons step rest => simp only [putAt, Write.onto]

/-- Members put into a table leave a table. -/
theorem isTable_putAll {tree : Json} (h : IsTable tree) (ms : List (String × Json)) :
    IsTable (putAll tree ms) := by
  induction ms generalizing tree with
  | nil => rwa [putAll]
  | cons m rest ih =>
    rw [putAll, put_eq]
    exact ih (isTable_set ..)

/-- Under a name, an address that begins with a name is followed if it is this name. -/
theorem get?_putAt_name (tree : Json) (name other : String) (rest : List Step) (value : Json) :
    get? (putAt value (.name name :: rest) tree) other =
      after (Write.under other ⟨.name name :: rest, value⟩) (get? tree other) := by
  rw [putAt_name, get?_set, Write.under]
  by_cases hname : lowered name = other
  · subst hname
    rw [if_pos rfl, if_pos rfl]
    rfl
  · rw [if_neg (Ne.symm hname), if_neg hname]
    rfl

/-- Writes come one after the other. -/
theorem after_append (ws ws' : List Write) (found : Option Json) :
    after (ws ++ ws') found = after ws' (after ws found) :=
  List.foldl_append ..

/-- Under a name, a table puts its members of this name. -/
theorem get?_putAll (tree : Json) (name : String) (ms : List (String × Json)) :
    get? (putAll tree ms) name = after (Write.under name ⟨[], .obj ms⟩) (get? tree name) := by
  induction ms generalizing tree with
  | nil => rfl
  | cons m rest ih =>
    have hfirst := get?_putAt_name tree m.1 name [] m.2
    rw [putAt] at hfirst
    rw [putAll, ih, hfirst, ← after_append]
    congr 1
    simp only [Write.under, List.filterMap_cons]
    split <;> simp

/-- What a write that keeps a table makes of the place under a name. -/
theorem Write.IsTabular.get?_onto {w : Write} (h : w.IsTabular) (found : Option Json)
    (name : String) :
    get? (w.onto found) name = after (w.under name) (found.bind (get? · name)) := by
  have hmissing (default : Json) (hdefault : get? default name = none) :
      get? (found.getD default) name = found.bind (get? · name) := by
    cases found with
    | none => exact hdefault
    | some j => rfl
  match w, h with
  | ⟨.name n :: rest, value⟩, _ =>
    rw [← hmissing .null rfl]
    exact get?_putAt_name ..
  | ⟨[], .obj ms⟩, _ =>
    rw [← hmissing (.obj []) rfl]
    exact get?_putAll ..

/-- A write that keeps a table leaves a table, also where nothing was. -/
theorem Write.IsTabular.isTable_onto {w : Write} (h : w.IsTabular) {found : Option Json}
    (hfound : ∀ j ∈ found, IsTable j) : IsTable (w.onto found) := by
  match w, h with
  | ⟨.name n :: rest, value⟩, _ => exact ⟨_, putAt_name ..⟩
  | ⟨[], .obj ms⟩, _ =>
    refine isTable_putAll ?_ ms
    cases found with
    | none => exact ⟨[], rfl⟩
    | some j => exact hfound j rfl

/-- So do several. -/
theorem isTable_after {ws : List Write} (h : ∀ w ∈ ws, w.IsTabular) {found : Option Json}
    (hfound : ∀ j ∈ found, IsTable j) : ∀ j ∈ after ws found, IsTable j := by
  induction ws generalizing found with
  | nil => exact hfound
  | cons w rest ih =>
    obtain ⟨hw, hrest⟩ := List.forall_mem_cons.1 h
    refine ih hrest ?_
    rintro j ⟨⟩
    exact hw.isTable_onto hfound

/-- What tabular writes leave under a name is what they leave there when they are seen from under
the name. -/
theorem bind_get?_after {ws : List Write} (h : ∀ w ∈ ws, w.IsTabular) (found : Option Json)
    (name : String) :
    (after ws found).bind (get? · name) =
      after (ws.flatMap (Write.under name)) (found.bind (get? · name)) := by
  induction ws generalizing found with
  | nil => rfl
  | cons w rest ih =>
    obtain ⟨hw, hrest⟩ := List.forall_mem_cons.1 h
    rw [List.flatMap_cons, after_append, ← hw.get?_onto]
    exact ih hrest (some (w.onto found))

/-- What stands under some names is what the writes seen from there make of it, as long as they keep
a table on the way. -/
theorem KeepTables.at?_after {names : List String} {ws : List Write} (h : KeepTables names ws)
    (found : Option Json) :
    at? names (after ws found) = after (under names ws) (at? names found) := by
  induction names generalizing ws found with
  | nil => rfl
  | cons name names ih =>
    rw [at?, bind_get?_after h.1, ih h.2]
    rfl

/-! ## Layers -/

/-- A key leads through a name first. -/
theorem address_eq_name_cons (key : String) : ∃ name rest, address key = .name name :: rest := by
  unfold address
  cases hsteps : readSteps (key.length + 1) ('.' :: key.toList) with
  | none => exact ⟨key, [], rfl⟩
  | some steps =>
    simp only [readSteps] at hsteps
    split at hsteps
    · cases hsteps
    · obtain ⟨rest, -, hrest⟩ := Option.bind_eq_some_iff.1 hsteps
      cases hrest
      exact ⟨_, _, rfl⟩

/-- At the root, every write of a layer keeps a table. -/
theorem isTabular_of_mem_writes {layer : List (String × Json)} {w : Write} (h : w ∈ writes layer) :
    w.IsTabular := by
  obtain ⟨m, -, rfl⟩ := List.mem_map.1 h
  obtain ⟨name, rest, haddress⟩ := address_eq_name_cons m.1
  rw [haddress]
  exact trivial

/-- A layer is laid over a tree by its writes. -/
theorem after_writes (tree : Json) (layer : List (String × Json)) :
    after (writes layer) (some tree) = some (withLayer tree layer) := by
  induction layer generalizing tree with
  | nil => rfl
  | cons m rest ih =>
    obtain ⟨name, steps, haddress⟩ := address_eq_name_cons m.1
    have hfirst : Write.onto (some tree) ⟨address m.1, m.2⟩ = putAt m.2 (address m.1) tree := by
      rw [haddress]
      rfl
    exact (congrArg (fun tree => after (writes rest) (some tree)) hfirst).trans (ih _)

/-- Layers are laid over a tree one after the other by the writes of all of them. -/
theorem after_flatMap_writes (tree : Json) (layers : List (List (String × Json))) :
    after (layers.flatMap writes) (some tree) = some (layers.foldl withLayer tree) := by
  induction layers generalizing tree with
  | nil => rfl
  | cons layer rest ih => rw [List.flatMap_cons, after_append, after_writes, ih, List.foldl_cons]

/-- Writes that come from several sides are seen from under a name side by side. -/
theorem under_flatMap {α : Type} (names : List String) (f : α → List Write) (l : List α) :
    under names (l.flatMap f) = l.flatMap fun a => under names (f a) := by
  induction names generalizing f with
  | nil => rfl
  | cons name names ih =>
    rw [under, List.flatMap_assoc, ih]
    rfl

/-- Writes keep tables if those from every side do. -/
theorem KeepTables.flatMap {α : Type} {names : List String} {f : α → List Write} {l : List α}
    (h : ∀ a ∈ l, KeepTables names (f a)) : KeepTables names (l.flatMap f) := by
  induction names generalizing f with
  | nil => exact trivial
  | cons name names ih =>
    constructor
    · intro w hw
      obtain ⟨a, ha, hmem⟩ := List.mem_flatMap.1 hw
      exact (h a ha).1 w hmem
    · rw [List.flatMap_assoc]
      exact ih fun a ha => (h a ha).2

/-- What stands under some names in the tree of layers that keep tables on the way. -/
theorem at?_ofLayers {names : List String} {layers : List (List (String × Json))}
    (hnames : names ≠ []) (h : ∀ layer ∈ layers, KeepTables names (writes layer)) :
    at? names (some (ofLayers layers)) =
      after (layers.flatMap fun layer => under names (writes layer)) none := by
  have hempty : at? names (some (.obj [])) = none := by
    cases names with
    | nil => exact absurd rfl hnames
    | cons name names => exact at?_none names
  rw [ofLayers, ← after_flatMap_writes, (KeepTables.flatMap h).at?_after, hempty, under_flatMap]

/-- The tree of some layers is a table. -/
theorem isTable_ofLayers (layers : List (List (String × Json))) : IsTable (ofLayers layers) := by
  have htabular : ∀ w ∈ layers.flatMap writes, w.IsTabular := by
    intro w hw
    obtain ⟨layer, -, hmem⟩ := List.mem_flatMap.1 hw
    exact isTabular_of_mem_writes hmem
  refine isTable_after htabular ?_ _ (after_flatMap_writes (.obj []) layers)
  rintro j ⟨⟩
  exact ⟨[], rfl⟩

/-! ## What counts -/

/-- What a layer writes under some names. An empty table writes nothing. -/
def written (names : List String) (layer : List (String × Json)) : List Write :=
  (under names (writes layer)).filter (!·.isEmptyTable)

/-- What the highest of some layers that writes under some names writes there last. The lowest layer
comes first. -/
def highest? (names : List String) (layers : List (List (String × Json))) : Option Write :=
  layers.reverse.findSome? fun layer => (written names layer).getLast?

/-- What is no list and no table was put there as it is, or was there before. -/
theorem Write.isScalar_onto {w : Write} {found : Option Json} (h : (w.onto found).IsScalar) :
    w = ⟨[], w.onto found⟩ ∨ w.isEmptyTable ∧ found = some (w.onto found) := by
  match w with
  | ⟨[], .obj []⟩ =>
    right
    cases found with
    | none => exact absurd h (IsTable.not_isScalar ⟨[], rfl⟩)
    | some j => exact ⟨rfl, rfl⟩
  | ⟨[], .obj (m :: ms)⟩ =>
    refine absurd h (IsTable.not_isScalar ?_)
    rw [Write.onto, putAll, put_eq]
    exact isTable_putAll (isTable_set ..) ms
  | ⟨.name name :: rest, value⟩ =>
    exact absurd h (IsTable.not_isScalar ⟨_, putAt_name ..⟩)
  | ⟨.index position :: rest, value⟩ =>
    simp only [Write.onto, putAt] at h
    exact h.elim
  | ⟨[], .null⟩ | ⟨[], .bool _⟩ | ⟨[], .int _⟩ | ⟨[], .float _⟩ | ⟨[], .str _⟩ => exact .inl rfl
  | ⟨[], .arr items⟩ => exact .inl rfl

/-- A scalar is no empty table. -/
theorem Write.isEmptyTable_of_isScalar {j : Json} (h : j.IsScalar) :
    isEmptyTable ⟨[], j⟩ = false := by
  cases j with
  | obj ms => exact h.elim
  | _ => rfl

/-- A scalar that was made of nothing was put there by the last write that counts. -/
theorem getLast?_of_after {ws : List Write} {j : Json} (h : after ws none = some j)
    (hj : j.IsScalar) : (ws.filter (!·.isEmptyTable)).getLast? = some ⟨[], j⟩ := by
  induction ws using List.reverseRecOn with
  | nil => cases h
  | append_singleton ws w ih =>
    rw [after_append] at h
    obtain rfl : w.onto (after ws none) = j := Option.some.inj h
    rw [List.filter_append, List.filter_singleton]
    rcases Write.isScalar_onto hj with hw | ⟨hempty, hbefore⟩
    · have hkept := Write.isEmptyTable_of_isScalar hj
      rw [← hw] at hkept ⊢
      simp [hkept]
    · rw [hempty]
      simpa using ih hbefore

/-- Only where nothing was written is nothing found. -/
theorem eq_nil_of_after {ws : List Write} {found : Option Json} (h : after ws found = none) :
    ws = [] := by
  induction ws using List.reverseRecOn with
  | nil => rfl
  | append_singleton ws w _ =>
    rw [after_append] at h
    cases h

/-- What stands under some names in the tree of layers is what the highest of them writes there, as
long as it is no list and no table. -/
theorem highest?_of_at? {names : List String} {layers : List (List (String × Json))}
    (hnames : names ≠ []) (h : ∀ layer ∈ layers, KeepTables names (writes layer)) :
    (at? names (some (ofLayers layers)) = none → highest? names layers = none) ∧
    ∀ j, at? names (some (ofLayers layers)) = some j → j.IsScalar →
      highest? names layers = some ⟨[], j⟩ := by
  have hwritten : highest? names layers = ((layers.flatMap fun layer =>
      under names (writes layer)).filter (!·.isEmptyTable)).getLast? := by
    rw [List.filter_flatMap, List.getLast?_flatMap]
    rfl
  rw [at?_ofLayers hnames h, hwritten]
  constructor
  · intro hnone
    rw [eq_nil_of_after hnone]
    rfl
  · exact fun j hj => getLast?_of_after hj

end SettingsTree

end CatalogSync
