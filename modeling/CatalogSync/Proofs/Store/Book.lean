import CatalogSync.Proofs.Order
import CatalogSync.Store.Book
import Mathlib.Logic.Relation

/-!
# The book and its store

A store that replaces its map as a whole or keeps it never holds anything but what the book stood
at. The two do not hold the same map: a stream that was only registered is not in the store, but
there it stands where a stream stands that is not known at all. So whenever the book is dropped and
opened again, every stream stands where it stood, or further on if its last commit was not noticed.
-/

namespace CatalogSync

namespace CursorMap

/-- Inserting a cursor moves its own stream. -/
theorem position_insert (m : CursorMap) (stream other : String) (c : Cursor) :
    position (m.insert stream (some c)) other = if other = stream then c else position m other := by
  simp only [position, NameMap.get?_insert]
  split <;> rfl

/-- A stream that becomes known without a cursor stands where it stood. -/
theorem position_insert_none {m : CursorMap} {stream : String} (h : m.contains stream = false)
    (other : String) : position (m.insert stream none) other = position m other := by
  simp only [position, NameMap.get?_insert]
  split
  · next hother =>
    rw [hother, Option.isNone_iff_eq_none.1 (Option.isSome_eq_false_iff.1 h)]
    rfl
  · rfl

/-- Inserting a cursor loses no stream. -/
theorem contains_insert {m : CursorMap} {stream other : String} {entry : Option Cursor}
    (h : m.contains other = true) : (m.insert stream entry).contains other = true := by
  rw [NameMap.contains, NameMap.get?_insert]
  split
  · rfl
  · exact h

end CursorMap

/-- A store whose commits replace the map as a whole, or fail and keep it. -/
structure Store.IsWhole {τ : Type} (store : Store τ) : Prop where
  stores : ∀ {m₀ m w w'}, store.load w = .ok m₀ → store.commit m w = (.ok (), w') →
    store.load w' = .ok m
  keeps : ∀ {m₀ m w e w'}, store.load w = .ok m₀ → store.commit m w = (.error e, w') →
    store.load w' = .ok m₀

/-- A store in memory loads what it holds, unless it is told to fail. -/
theorem MemoryStore.load_eq_ok {w : MemoryStore} {m : CursorMap} :
    store.load w = .ok m ↔ w.loadFault = none ∧ w.cursors = m := by
  change MemoryStore.load w = .ok m ↔ _
  unfold MemoryStore.load
  rcases w.loadFault with _ | e <;> simp

/-- The store in memory does, whichever of its commits fail. -/
theorem MemoryStore.isWhole : MemoryStore.store.IsWhole where
  stores {m₀ m w w'} hload hcommit := by
    obtain ⟨hfault, -⟩ := load_eq_ok.1 hload
    change MemoryStore.commit m w = (.ok (), w') at hcommit
    unfold MemoryStore.commit at hcommit
    dsimp only at hcommit
    split at hcommit <;> cases hcommit
    exact load_eq_ok.2 ⟨hfault, rfl⟩
  keeps {m₀ m w e w'} hload hcommit := by
    change MemoryStore.commit m w = (.error e, w') at hcommit
    unfold MemoryStore.commit at hcommit
    dsimp only at hcommit
    split at hcommit <;> cases hcommit
    exact hload

namespace Book

variable {τ : Type} {store : Store τ} {b b' b'' : Book τ} {stream : String} {c : Cursor}

/-- A book is opened on what is loaded. -/
theorem open?_eq_ok {world : τ} : open? store world = .ok b ↔
    store.load world = .ok b.cursors ∧ b.world = world := by
  have hopen : open? store world = (store.load world).bind fun m => .ok ⟨m, world⟩ := rfl
  rw [hopen]
  rcases store.load world with e | m
  · simp [Except.bind]
  · obtain ⟨cursors, world'⟩ := b
    simp [Except.bind, eq_comm]

/-- A book is opened with the map that the store loads. -/
theorem open?_of_load {world : τ} {m : CursorMap} (h : store.load world = .ok m) :
    open? store world = .ok ⟨m, world⟩ :=
  open?_eq_ok.2 ⟨h, rfl⟩

section Register

/-- Streams are registered one by one. -/
theorem register_cons (b : Book τ) (streams : List String) :
    b.register (stream :: streams) = (b.register [stream]).register streams := rfl

/-- A stream that is known is left alone. -/
theorem register_singleton (b : Book τ) (stream : String) :
    b.cursors.contains stream = true ∧ b.register [stream] = b ∨
      b.cursors.contains stream = false ∧
        b.register [stream] = { b with cursors := b.cursors.insert stream none } := by
  cases h : b.cursors.contains stream with
  | true => exact .inl ⟨rfl, congrArg (Book.mk · b.world) (if_pos h)⟩
  | false => exact .inr ⟨rfl, congrArg (Book.mk · b.world) (if_neg (by simp [h]))⟩

/-- Whatever is registered, every stream stands where it stood. -/
theorem position_register (b : Book τ) (streams : List String) (s : String) :
    (b.register streams).position s = b.position s := by
  induction streams generalizing b with
  | nil => rfl
  | cons first streams ih =>
    rw [register_cons, ih]
    rcases b.register_singleton first with ⟨-, hsame⟩ | ⟨hnew, hinsert⟩
    · rw [hsame]
    · rw [hinsert]
      exact CursorMap.position_insert_none hnew s

/-- What is known stays known. -/
theorem contains_register (streams : List String) {s : String} (h : b.cursors.contains s = true) :
    (b.register streams).cursors.contains s = true := by
  induction streams generalizing b with
  | nil => exact h
  | cons first streams ih =>
    rw [register_cons]
    refine ih ?_
    rcases b.register_singleton first with ⟨-, hsame⟩ | ⟨-, hinsert⟩
    · rwa [hsame]
    · rw [hinsert]
      exact CursorMap.contains_insert h

end Register

section Advance

/-- An advance that changes something is decided by the store. -/
theorem advance_of_needed (store : Store τ) (hle : b.position stream ≤ c)
    (hneeded : ¬(c = b.position stream ∧ b.cursors.contains stream)) :
    b.advance store stream c =
      match store.commit (b.cursors.insert stream (some c)) b.world with
      | (.ok (), world) => (.ok true, ⟨b.cursors.insert stream (some c), world⟩)
      | (.error e, world) => (.error e, { b with world }) := by
  refine (if_neg hle.not_gt).trans ((if_neg hneeded).trans ?_)
  rfl

/-- An advance to a later cursor is one. -/
theorem advance_of_lt (store : Store τ) (h : b.position stream < c) :
    b.advance store stream c =
      match store.commit (b.cursors.insert stream (some c)) b.world with
      | (.ok (), world) => (.ok true, ⟨b.cursors.insert stream (some c), world⟩)
      | (.error e, world) => (.error e, { b with world }) :=
  advance_of_needed store h.le fun hs => h.ne' hs.1

/-- An advance is refused, or has nothing to do, or is decided by the store. -/
inductive Advances (store : Store τ) (b : Book τ) (stream : String) (c : Cursor) :
    Except StateError Bool × Book τ → Prop
  | refused (hlt : c < b.position stream) :
    Advances store b stream c (.error (.regression stream (b.position stream) c), b)
  | unchanged (heq : c = b.position stream) (hknown : b.cursors.contains stream = true) :
    Advances store b stream c (.ok false, b)
  | committed (hle : b.position stream ≤ c)
    (hneeded : ¬(c = b.position stream ∧ b.cursors.contains stream = true)) {world : τ}
    (hcommit : store.commit (b.cursors.insert stream (some c)) b.world = (.ok (), world)) :
    Advances store b stream c (.ok true, ⟨b.cursors.insert stream (some c), world⟩)
  | failed (hle : b.position stream ≤ c)
    (hneeded : ¬(c = b.position stream ∧ b.cursors.contains stream = true)) {e : StateError}
    {world : τ}
    (hcommit : store.commit (b.cursors.insert stream (some c)) b.world = (.error e, world)) :
    Advances store b stream c (.error e, { b with world })

/-- A stream is advanced in one of the ways that there are. -/
theorem advances (store : Store τ) (b : Book τ) (stream : String) (c : Cursor) :
    Advances store b stream c (b.advance store stream c) := by
  by_cases hlt : c < b.position stream
  · have hadvance :
        b.advance store stream c = (.error (.regression stream (b.position stream) c), b) :=
      if_pos hlt
    rw [hadvance]
    exact .refused hlt
  by_cases hneeded : c = b.position stream ∧ b.cursors.contains stream
  · have hadvance : b.advance store stream c = (.ok false, b) := (if_neg hlt).trans (if_pos hneeded)
    rw [hadvance]
    exact .unchanged hneeded.1 hneeded.2
  · rw [advance_of_needed store (not_lt.1 hlt) hneeded]
    rcases hcommit : store.commit (b.cursors.insert stream (some c)) b.world with ⟨e | _, world⟩
    · exact .failed (not_lt.1 hlt) hneeded hcommit
    · exact .committed (not_lt.1 hlt) hneeded hcommit

end Advance

/-- What happens to a book. -/
inductive Step (store : Store τ) : Book τ → Book τ → Prop
  | register (b : Book τ) (streams : List String) : Step store b (b.register streams)
  | advance (b : Book τ) (stream : String) (c : Cursor) : Step store b (b.advance store stream c).2
  /-- The book is dropped, and another one is opened. -/
  | restart {b b' : Book τ} (hopen : open? store b.world = .ok b') : Step store b b'
  /-- The book is dropped while it is advanced: the store has answered, the book has not changed. -/
  | lose {b b' : Book τ} (stream : String) (c : Cursor)
    (hopen : open? store (b.advance store stream c).2.world = .ok b') : Step store b b'
  /-- Something happens in the world that does not concern the store. -/
  | elsewhere (b : Book τ) {world : τ} (hload : store.load world = store.load b.world) :
    Step store b { b with world }

/-- A book came from another one. -/
abbrev Reaches (store : Store τ) : Book τ → Book τ → Prop := Relation.ReflTransGen (Step store)

/-- In the store every stream stands where it stands in the book, and is not known if it is not
known there. -/
structure InStep (store : Store τ) (b : Book τ) (m : CursorMap) : Prop where
  load : store.load b.world = .ok m
  position : ∀ s, CursorMap.position m s = b.position s
  known : ∀ s, m.contains s = true → b.cursors.contains s = true

/-- A map of a later moment: no stream stands before where it stood, and none is forgotten. -/
structure Later (m m' : CursorMap) : Prop where
  position_le : ∀ s, CursorMap.position m s ≤ CursorMap.position m' s
  contains : ∀ s, m.contains s = true → m'.contains s = true

/-- A map is no earlier than itself. -/
theorem Later.refl (m : CursorMap) : Later m m := ⟨fun _ => le_rfl, fun _ => id⟩

/-- What is later than something later is later. -/
theorem Later.trans {m m' m'' : CursorMap} (h : Later m m') (h' : Later m' m'') : Later m m'' :=
  ⟨fun s => (h.position_le s).trans (h'.position_le s), fun s hs => h'.contains s (h.contains s hs)⟩

section

variable {m : CursorMap}

/-- A book is in step with the store that it is opened on. -/
theorem inStep_of_open {world : τ} (hload : store.load world = .ok m)
    (hopen : open? store world = .ok b) : InStep store b m := by
  obtain ⟨hload', hworld⟩ := open?_eq_ok.1 hopen
  have hm : m = b.cursors := Except.ok.inj (hload.symm.trans hload')
  subst hm
  exact ⟨hworld ▸ hload, fun _ => rfl, fun _ => id⟩

/-- Another book can be opened on the store, and every stream stands in it where it stands. -/
theorem InStep.exists_open (h : InStep store b m) :
    ∃ fresh, open? store b.world = .ok fresh ∧ ∀ s, fresh.position s = b.position s :=
  ⟨⟨m, b.world⟩, open?_of_load h.load, h.position⟩

/-- An advance that fails changes neither the book nor what is loaded. -/
theorem InStep.keeps (hstore : store.IsWhole) (h : InStep store b m) {e : StateError}
    (hadvance : b.advance store stream c = (.error e, b')) :
    b'.cursors = b.cursors ∧ store.load b'.world = .ok m := by
  have hcases := advances store b stream c
  rw [hadvance] at hcases
  cases hcases with
  | refused => exact ⟨rfl, h.load⟩
  | failed _ _ hcommit => exact ⟨rfl, hstore.keeps h.load hcommit⟩

/-- After an advance the store is in step again, and no stream was set back or forgotten: what is
committed is known from the book, all that the store knew included. -/
theorem InStep.advance (hstore : store.IsWhole) (h : InStep store b m) (stream : String)
    (c : Cursor) : ∃ m', InStep store (b.advance store stream c).2 m' ∧ Later m m' := by
  cases hadvance : b.advance store stream c with
  | mk result b' =>
    have hcases := advances store b stream c
    rw [hadvance] at hcases
    cases hcases with
    | refused | unchanged => exact ⟨m, h, .refl m⟩
    | failed _ _ hcommit =>
      exact ⟨m, ⟨hstore.keeps h.load hcommit, h.position, h.known⟩, .refl m⟩
    | committed hle _ hcommit =>
      refine
        ⟨_, ⟨hstore.stores h.load hcommit, fun _ => rfl, fun _ => id⟩, fun s => ?_, fun s hs => ?_⟩
      · rw [CursorMap.position_insert, h.position]
        split
        · next hs =>
          rw [hs]
          exact hle
        · exact le_rfl
      · exact CursorMap.contains_insert (h.known s hs)

/-- Whatever happens to the book, the store stays in step with it, and what it holds is from a later
moment. -/
theorem Step.inStep (hstore : store.IsWhole) (hstep : Step store b b') (h : InStep store b m) :
    ∃ m', InStep store b' m' ∧ Later m m' := by
  cases hstep with
  | register streams =>
    exact ⟨m, ⟨h.load, fun s => (h.position s).trans (b.position_register streams s).symm,
      fun s hs => contains_register streams (h.known s hs)⟩, .refl m⟩
  | advance stream c => exact h.advance hstore stream c
  | restart hopen => exact ⟨m, inStep_of_open h.load hopen, .refl m⟩
  | lose stream c hopen =>
    obtain ⟨m', h', hlater⟩ := h.advance hstore stream c
    exact ⟨m', inStep_of_open h'.load hopen, hlater⟩
  | elsewhere hload => exact ⟨m, ⟨hload.trans h.load, h.position, h.known⟩, .refl m⟩

/-- A book and its store stay in step, whatever is done with them, and no stream goes back. -/
theorem Reaches.inStep (hstore : store.IsWhole) (hreach : Reaches store b b')
    (h : InStep store b m) : ∃ m', InStep store b' m' ∧ Later m m' := by
  induction hreach with
  | refl => exact ⟨m, h, .refl m⟩
  | tail _ hstep ih =>
    obtain ⟨m₁, h₁, hlater₁⟩ := ih
    obtain ⟨m₂, h₂, hlater₂⟩ := hstep.inStep hstore h₁
    exact ⟨m₂, h₂, hlater₁.trans hlater₂⟩

end

/-- An advance succeeds if it goes to no earlier cursor and its commit succeeds, or if the stream is
known to stand there and nothing has to be committed. -/
theorem advance_ok_iff (store : Store τ) (b : Book τ) (stream : String) (c : Cursor) :
    (∃ changed, (b.advance store stream c).1 = .ok changed) ↔
      b.position stream ≤ c ∧ ((c = b.position stream ∧ b.cursors.contains stream = true) ∨
        (store.commit (b.cursors.insert stream (some c)) b.world).1 = .ok ()) := by
  cases hadvance : b.advance store stream c with
  | mk result b' =>
    have hcases := advances store b stream c
    rw [hadvance] at hcases
    cases hcases with
    | refused hlt => simp [hlt.not_ge]
    | unchanged heq hknown => simp [heq, hknown]
    | committed hle _ hcommit => simp [hle, hcommit]
    | failed hle hneeded hcommit => simp [hle, hneeded, hcommit]

/-- Whatever has happened since a book was opened, another one that is opened on its store has every
stream where it stands; from then on no stream is set back and none is forgotten by the store; an
advance that fails changes neither the book nor the store; registering changes where no stream
stands; and an advance succeeds if it does not go back and its commit, if it needs one, succeeds. -/
theorem stays_in_step (hstore : store.IsWhole) {world : τ} {opened : Book τ}
    (hopen : open? store world = .ok opened) (hreach : Reaches store opened b) :
    (∃ fresh, open? store b.world = .ok fresh ∧ ∀ s, fresh.position s = b.position s) ∧
    (∀ b', Reaches store b b' → (∀ s, b.position s ≤ b'.position s) ∧
      ∃ m m', store.load b.world = .ok m ∧ store.load b'.world = .ok m' ∧
        ∀ s, m.contains s = true → m'.contains s = true) ∧
    (∀ s c e b', b.advance store s c = (.error e, b') →
      b'.cursors = b.cursors ∧ store.load b'.world = store.load b.world) ∧
    (∀ streams s, (b.register streams).position s = b.position s) ∧
    ∀ s c, (∃ changed, (b.advance store s c).1 = .ok changed) ↔
      b.position s ≤ c ∧ ((c = b.position s ∧ b.cursors.contains s = true) ∨
        (store.commit (b.cursors.insert s (some c)) b.world).1 = .ok ()) := by
  obtain ⟨hload, hworld⟩ := open?_eq_ok.1 hopen
  obtain ⟨m, hm, -⟩ := hreach.inStep hstore (inStep_of_open hload hopen)
  refine ⟨hm.exists_open, fun b' hreach' => ?_, fun s c e b' hadvance => ?_,
    b.position_register, advance_ok_iff store b⟩
  · obtain ⟨m', hm', hlater⟩ := hreach'.inStep hstore hm
    refine ⟨fun s => ?_, m, m', hm.load, hm'.load, hlater.contains⟩
    rw [← hm.position, ← hm'.position]
    exact hlater.position_le s
  · obtain ⟨hcursors, hload'⟩ := hm.keeps hstore hadvance
    exact ⟨hcursors, hload'.trans hm.load.symm⟩

/-- A store that knows one stream and whose first commit fails. -/
def flaky : MemoryStore := ⟨.ofList [("legacy", none)], none, [some .poisoned], 0⟩

/-- A stream is registered, advanced in vain and advanced; then another one is, and the book is lost
before it knows. -/
theorem stays_in_step_flaky :
    let opened : Book MemoryStore := ⟨flaky.cursors, flaky⟩
    let refused := (opened.register ["genre"]).advance MemoryStore.store "genre" (.ofRow .first "g")
    let moved := refused.2.advance MemoryStore.store "genre" (.ofRow .first "g")
    let world := (moved.2.advance MemoryStore.store "legacy" (.ofRow .first "x")).2.world
    let reopened : Book MemoryStore := ⟨world.cursors, world⟩
    open? MemoryStore.store flaky = .ok opened ∧ refused.1 = .error .poisoned ∧
      moved.1 = .ok true ∧ Reaches MemoryStore.store opened reopened ∧
      moved.2.position "legacy" = .initial ∧ reopened.position "legacy" = .ofRow .first "x" ∧
      (∃ fresh, open? MemoryStore.store reopened.world = .ok fresh ∧
        ∀ s, fresh.position s = reopened.position s) ∧
      ∀ s, moved.2.position s ≤ reopened.position s := by
  intro opened refused moved world reopened
  have hopened : open? MemoryStore.store flaky = .ok opened := rfl
  have hmoved : Reaches MemoryStore.store opened moved.2 :=
    ((Relation.ReflTransGen.single (.register opened ["genre"])).tail (.advance _ "genre" _)).tail
      (.advance _ "genre" _)
  have hfault : world.loadFault = none := by decide +kernel
  have hload : MemoryStore.store.load world = .ok world.cursors :=
    MemoryStore.load_eq_ok.2 ⟨hfault, rfl⟩
  have hlost : Step MemoryStore.store moved.2 reopened :=
    .lose "legacy" (.ofRow .first "x") (open?_of_load hload)
  obtain ⟨-, hlater, -⟩ := stays_in_step MemoryStore.isWhole hopened hmoved
  obtain ⟨hfresh, -⟩ := stays_in_step MemoryStore.isWhole hopened (hmoved.tail hlost)
  exact ⟨hopened, by decide +kernel, by decide +kernel, hmoved.tail hlost, by decide +kernel,
    by decide +kernel, hfresh, (hlater _ (.single hlost)).1⟩

end Book

end CatalogSync
