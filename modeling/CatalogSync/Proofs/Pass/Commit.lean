import CatalogSync.Proofs.Pass.Rule

/-!
# What a worker commits

A drained worker is still the worker of its stream, and the book stands where it stood when the
worker started. So the book refuses no cursor of a worker that moved: what comes of its commit is up
to the store (`advance_of_drained`), and a worker runs as `ends_runWorker` says.
-/

namespace CatalogSync

namespace Pipeline

variable {ω ρ : Type} {p : Pipeline ω ρ} {source : Source ω} {store : Store ω} {allowance : Nat}
  {spec : WorkerSpec} {st st' : PassState ω} {w : Worker}

/-- A drained worker is over its stream and started where the stream stands. -/
theorem ends_drain_isSame (p : Pipeline ω ρ) (source : Source ω) (spec : WorkerSpec)
    (allowance : Nat) (st : PassState ω) :
    (p.drain source spec allowance).Ends
      (fun w st' => st'.book.cursors = st.book.cursors ∧
        (p.workerOf spec st.book.cursors).IsSame w)
      (fun _ st' => st'.book.cursors = st.book.cursors) st := by
  let w := p.workerOf spec st.book.cursors
  exact (ends_drain_kept (J := fun x => w.IsSame x.worker)
    (fun x page x' hx hturn => hx.trans hturn.isSame) (fun _ _ _ _ hx _ => hx) (.refl w)).imp
      fun w' st' h => ⟨h.1, h.2.2⟩

/-- A drained worker is the worker of its stream, and the book has not moved since it started. -/
theorem start_of_drained (hdrain : p.drain source spec allowance st = (.ok w, st')) :
    w.spec = spec ∧ st'.book.cursors = st.book.cursors ∧
      w.start = st'.book.position w.spec.stream := by
  obtain ⟨hcursors, hsame⟩ := (p.ends_drain_isSame source spec allowance st).of_ok hdrain
  have hspec : w.spec = spec := hsame.spec
  have hstart : w.start = st.book.position spec.stream := hsame.start
  refine ⟨hspec, hcursors, ?_⟩
  rw [hstart, hspec, Book.position, Book.position, hcursors]

/-- A worker that moved is not refused by the book, and not told that it stands there already: what
comes of its cursor is up to the store. -/
theorem advance_of_drained (hdrain : p.drain source spec allowance st = (.ok w, st'))
    (hmoved : w.HasAdvanced) :
    st'.book.advance store w.spec.stream w.cursor =
      match store.commit (st'.book.cursors.insert w.spec.stream (some w.cursor)) st'.book.world with
      | (.ok (), world) =>
        (.ok true, ⟨st'.book.cursors.insert w.spec.stream (some w.cursor), world⟩)
      | (.error e, world) => (.error e, { st'.book with world }) := by
  obtain ⟨-, -, hstart⟩ := start_of_drained hdrain
  have hlt : st'.book.position w.spec.stream < w.cursor := by
    rw [← hstart]
    exact hmoved
  exact Book.advance_of_lt store hlt

/-- A worker is drained, and what it moved to is committed. -/
theorem ends_runWorker {A : Unit → PassState ω → Prop}
    {F : Option PipelineError → PassState ω → Prop} :
    (p.runWorker source store spec allowance).Ends A F st ↔
      (p.drain source spec allowance).Ends (fun w st' =>
        if w.HasAdvanced then
          match store.commit
            (st.book.cursors.insert spec.stream (some w.cursor)) st'.book.world with
          | (.ok (), world) =>
            A () ⟨⟨st.book.cursors.insert spec.stream (some w.cursor), world⟩,
              { st'.report with streamsCommitted := st'.report.streamsCommitted + 1 }⟩
          | (.error e, world) =>
            F (some (.state e)) ⟨⟨st.book.cursors, world⟩, st'.report⟩
        else A () st') F st := by
  rw [runWorker, Call.ends_bind]
  rcases hdrain : p.drain source spec allowance st with ⟨w | e | _, st'⟩
  · rw [Call.ends_iff_of_ok hdrain, Call.ends_iff_of_ok hdrain]
    obtain ⟨rfl, hcursors, hstart⟩ := start_of_drained hdrain
    obtain ⟨⟨cursors, world⟩, report⟩ := st'
    obtain rfl : cursors = st.book.cursors := hcursors
    exact ends_commit hstart
  · simp only [Call.Ends, hdrain]
  · simp only [Call.Ends, hdrain]

end Pipeline

end CatalogSync
