import CatalogSync.Proofs.Sync.Contract
import Mathlib.Data.List.MinMax
import Mathlib.Data.List.Sort

/-!
# A world that keeps the contracts

A replica answers from the tables themselves: a scan is the sorted list of the rows that the tables
hold for it, taken when the first rows are fetched. Its catalog goes through given states, and the
calls that are made may find it moved on.
-/

namespace CatalogSync

namespace Catalog

variable (c : Catalog)

/-- When the rows of a table were changed. -/
def stamps : Entity → List (String × Timestamp)
  | .filmWork => c.films.entries.map fun e => (e.1, e.2.modified)
  | other => (c.named other).entries.map fun e => (e.1, e.2.modified)

/-- What the tables hold for a selection. -/
def joinedRows : Selection → List ChangeRow
  | .root entity => (c.stamps entity).map fun e => ⟨e.1, e.2, e.1⟩
  | .related entity => (c.links entity).filterMap fun link => do
    let t ← c.stamp? entity link.id
    let film ← c.stamp? .filmWork link.film
    if film < t then some ⟨link.film, t, link.id⟩ else none

/-- The rows of a scan in their order. -/
def scanRows (selection : Selection) (start : Cursor) (root : Option Cursor) : List ChangeRow :=
  ((c.joinedRows selection).filter fun r => start.timestamp ≤ r.timestamp ∧
    ∀ bound ∈ root, ∀ film ∈ c.stamp? .filmWork r.rootId, film ≤ bound.timestamp).insertionSort
      fun a b => a.order b ≠ .gt

/-- The cursor of the greatest row of a table. -/
def greatest? (entity : Entity) : Option Cursor :=
  ((c.stamps entity).map fun e => Cursor.ofRow e.2 e.1).argmax id

/-- The stamps of a table are those of its rows. -/
theorem mem_stamps {entity : Entity} {id : String} {t : Timestamp} :
    (id, t) ∈ c.stamps entity ↔ c.stamp? entity id = some t := by
  cases entity <;>
    simp [stamps, stamp?, ← NameMap.mem_entries_iff, Prod.exists]

/-- The rows that are joined are those that the query asks for. -/
theorem mem_joinedRows {selection : Selection} {r : ChangeRow} :
    r ∈ c.joinedRows selection ↔ c.Joined selection r := by
  cases selection with
  | root entity =>
    obtain ⟨rootId, t, id⟩ := r
    simp only [joinedRows, Joined, Selection.entity, ← c.mem_stamps, List.mem_map, Prod.exists,
      ChangeRow.mk.injEq]
    constructor
    · rintro ⟨id, t, hmem, rfl, rfl, rfl⟩
      exact ⟨hmem, rfl⟩
    · rintro ⟨hmem, rfl⟩
      exact ⟨_, _, hmem, rfl, rfl, rfl⟩
  | related entity =>
    simp only [joinedRows, Joined, Selection.entity, IsLinked, List.mem_filterMap,
      Option.bind_eq_bind, Option.bind_eq_some_iff, Option.ite_none_right_eq_some,
      Option.some.injEq]
    constructor
    · rintro ⟨link, hlink, t, ht, film, hfilm, hlt, rfl⟩
      exact ⟨ht, ⟨link, hlink, rfl, rfl⟩, film, hfilm, hlt⟩
    · rintro ⟨ht, ⟨link, hlink, hid, hroot⟩, film, hfilm, hlt⟩
      refine ⟨link, hlink, r.timestamp, hid ▸ ht, film, hroot ▸ hfilm, hlt, ?_⟩
      rw [hid, hroot]

/-- What is scanned is what the query asks for, in its order. -/
theorem isScan_scanRows (selection : Selection) (start : Cursor) (root : Option Cursor) :
    c.IsScan selection start root (c.scanRows selection start root) where
  mem_iff r := by simp [scanRows, InScan, mem_joinedRows]
  ascending := List.pairwise_insertionSort _ _

/-- The greatest row of a table is found. -/
theorem isGreatest_greatest? (entity : Entity) : c.IsGreatest entity (c.greatest? entity) := by
  cases h : c.greatest? entity with
  | none =>
    have hnil := List.map_eq_nil_iff.1 (List.argmax_eq_none.1 h)
    intro id
    by_contra hsome
    obtain ⟨t, ht⟩ := Option.ne_none_iff_exists'.1 hsome
    rw [← mem_stamps, hnil] at ht
    cases ht
  | some g =>
    refine ⟨?_, fun t id ht => ?_⟩
    · obtain ⟨e, he, rfl⟩ := List.mem_map.1 (List.argmax_mem h)
      exact ⟨e.2, e.1, c.mem_stamps.1 he, rfl⟩
    · exact List.le_of_mem_argmax (List.mem_map.2 ⟨_, c.mem_stamps.2 ht, rfl⟩) h

/-- The aggregates under some ids are those of the films that are there. -/
theorem areFilmDocuments_filterMap (ids : List String) :
    c.AreFilmDocuments ids (ids.filterMap c.filmDocument) where
  sound _ hdoc := List.mem_filterMap.1 hdoc
  complete id hid _ hdoc := List.mem_filterMap.2 ⟨id, hid, hdoc⟩

end Catalog

/-- A world whose catalog goes through given states. -/
structure Replica where
  /-- The state that the catalog is in. -/
  moment : Nat
  /-- How far the catalog has moved on by each call to come. -/
  moves : List Nat
  scan : ScanState
  index : Index

namespace Replica

/-- The world as the next call finds it. -/
def next (w : Replica) : Replica :=
  { w with moment := w.moment + w.moves.headD 0, moves := w.moves.tail }

variable (states : Nat → Catalog)

def view : View Replica := ⟨fun w => states w.moment, scan, index⟩

/-- What the tables answer. -/
def answer : (c : SourceCall) → Replica → Except SourceError c.Answer × Replica
  | .openScan selection start root, w => (.ok (), { w with scan := .opened selection start root })
  | .fetch count, w =>
    match w.scan with
    | .closed => (.error (.query "no scan is open"), w)
    | .opened selection start root =>
      let rows := (states w.moment).scanRows selection start root
      (.ok (rows.take count), { w with scan := .reading (states w.moment) (rows.drop count) })
    | .reading snapshot rest =>
      (.ok (rest.take count), { w with scan := .reading snapshot (rest.drop count) })
  | .closeScan, w => (.ok (), { w with scan := .closed })
  | .probe entity, w =>
    match w.scan with
    | .reading snapshot _ => (.ok (snapshot.greatest? entity), w)
    | _ => (.ok none, w)
  | .enrich _ ids, w => (.ok (ids.filterMap (states w.moment).filmDocument), w)
  | .ping, w => (.ok (), w)

def source : Source Replica where
  ask c w := ((Outcome.ofExcept (answer states c w.next).1), (answer states c w.next).2)

/-- The index after a batch: of several entries under one id the last. -/
def put (index : Index) (batch : Batch) : Index :=
  batch.foldl (fun index e => Function.update index e.id (some e.source)) index

/-- A loader that accepts everything. -/
def loader (batchSize : Nat) : Loader Replica where
  index := "movies"
  batchSize
  preCheck := pure ()
  write batch w :=
    (.ok ⟨batch.length, batch.length⟩, { w.next with index := put w.index batch })

def store : Store Replica where
  load _ := .ok ∅
  commit _ w := (.ok (), w.next)

/-- An answer moves neither the moment nor the index. -/
theorem answer_steady (c : SourceCall) (w : Replica) :
    (answer states c w).2.moment = w.moment ∧ (answer states c w).2.index = w.index := by
  cases c with
  | fetch count =>
    simp only [answer]
    split <;> exact ⟨rfl, rfl⟩
  | probe entity =>
    simp only [answer]
    split <;> exact ⟨rfl, rfl⟩
  | _ => exact ⟨rfl, rfl⟩

variable {states}

/-- With the next call the catalog has only been edited. -/
theorem edited_next (hstates : ∀ n, (states n).Edited (states (n + 1))) (w : Replica) :
    ((view states).catalog w).Edited ((view states).catalog w.next) := by
  have hmoved (n k : Nat) : (states n).Edited (states (n + k)) := by
    induction k with
    | zero => exact .refl
    | succ k ih => exact ih.trans (hstates _)
  exact hmoved _ _

/-- The replica answers as a source has to: a scan, its pages and a probe from one moment. -/
theorem keepsContract_source (hstates : ∀ n, (states n).Edited (states (n + 1))) :
    (source states).KeepsContract (view states) where
  steady c w := by
    obtain ⟨hmoment, hindex⟩ := answer_steady states c w.next
    refine ⟨?_, hindex⟩
    have hedited := edited_next hstates w
    simp only [view] at hedited ⊢
    rwa [source, hmoment]
  openScan selection start root w w' h := by
    cases h
    exact .inl rfl
  fetch count w page w' h := by
    have hnext : w.next.scan = w.scan := rfl
    have hview : (view states).scan w = w.scan := rfl
    simp only [source, answer, hnext] at h
    rw [hview]
    cases hscan : w.scan with
    | closed => trivial
    | opened selection start root =>
      rw [hscan] at h
      cases h
      exact ⟨_, _, ⟨edited_next hstates w, .refl, Catalog.isScan_scanRows ..⟩, rfl, rfl⟩
    | reading snapshot rest =>
      rw [hscan] at h
      cases h
      exact ⟨rfl, rfl⟩
  probe entity w greatest w' h := by
    have hnext : w.next.scan = w.scan := rfl
    simp only [source, answer, hnext] at h
    cases hscan : w.scan with
    | reading snapshot rest =>
      rw [hscan] at h
      cases h
      refine ⟨rfl, fun snapshot' rest' hreading => ?_⟩
      cases hscan.symm.trans hreading
      exact Catalog.isGreatest_greatest? _ _
    | _ =>
      rw [hscan] at h
      cases h
      refine ⟨rfl, fun snapshot' rest' hreading => ?_⟩
      cases hscan.symm.trans hreading
  enrich ids w docs w' h := by
    cases h
    refine ⟨rfl, fun snapshot rest hscan hsnapshot => ?_⟩
    have hedited := edited_next hstates w
    exact ⟨_, hsnapshot.trans hedited, .refl, Catalog.areFilmDocuments_filterMap _ ids⟩

/-- An entry of the index is as it was, or comes from the batch. -/
theorem put_or (index : Index) (batch : Batch) (id : String) :
    (put index batch id = index id ∧ ∀ e ∈ batch, e.id ≠ id) ∨
      ∃ source, ⟨id, source⟩ ∈ batch ∧ put index batch id = some source := by
  induction batch generalizing index with
  | nil => exact .inl ⟨rfl, by simp⟩
  | cons e rest ih =>
    rcases ih (Function.update index e.id (some e.source)) with ⟨hkept, hnone⟩ |
      ⟨source, hmem, hstored⟩
    · by_cases hid : e.id = id
      · subst hid
        exact .inr ⟨e.source, List.mem_cons_self, hkept.trans (Function.update_self ..)⟩
      · refine .inl ⟨?_, ?_⟩
        · exact hkept.trans (Function.update_of_ne (Ne.symm hid) ..)
        · rintro other hother
          rcases List.mem_cons.1 hother with rfl | hother
          · exact hid
          · exact hnone other hother
    · exact .inr ⟨source, List.mem_cons_of_mem _ hmem, hstored⟩

/-- The replica writes as a loader has to. -/
theorem keepsContract_loader (hstates : ∀ n, (states n).Edited (states (n + 1)))
    (batchSize : Nat) : (loader batchSize).KeepsContract (view states) where
  steady batch w := ⟨edited_next hstates w, rfl⟩
  stores batch w id := (put_or w.index batch id).imp_left And.left
  accepts batch w result w' h _ entry hentry := by
    cases h
    rcases put_or w.index batch entry.id with ⟨-, hnone⟩ | hstored
    · exact absurd rfl (hnone entry hentry)
    · exact hstored

/-- Committing to the replica touches neither catalog nor index. -/
theorem keepsContract_store (hstates : ∀ n, (states n).Edited (states (n + 1))) :
    store.KeepsContract (view states) :=
  fun _ w => ⟨edited_next hstates w, rfl⟩

end Replica

end CatalogSync
