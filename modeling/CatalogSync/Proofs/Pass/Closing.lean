import CatalogSync.Proofs.Pass.Unchanging

/-!
# What a pass leaves of its source

What every question to the source keeps is kept by a pass, as long as writing and committing keep it
too. And a pass leaves no scan behind: the last thing that a drained worker asks for is to close its
scan, and so is the last thing that is asked for after a failure. So what a close brings about holds
when a pass is over, unless it has no worker and asks for nothing.
-/

namespace CatalogSync

variable {ω σ ρ : Type}

/-- Writing batches and committing cursors leave a part of the world alone. -/
structure Pipeline.Spares (p : Pipeline ω ρ) (store : Store ω) (part : ω → σ) : Prop where
  write : p.loader.Spares part
  commit : ∀ m w, part (store.commit m w).2 = part w

/-- Writing batches and committing cursors keep a property of the world. -/
structure Pipeline.Keeps (p : Pipeline ω ρ) (store : Store ω) (K : ω → Prop) : Prop where
  write : ∀ batch, (p.loader.write batch).Keeps K
  commit : ∀ m w, K w → K (store.commit m w).2

/-- A property of a part that is left alone is kept. -/
theorem Pipeline.Spares.keeps {p : Pipeline ω ρ} {store : Store ω} {part : ω → σ}
    (h : p.Spares store part) (K : σ → Prop) : p.Keeps store fun w => K (part w) where
  write batch w hw := by
    change K (part (p.loader.write batch w).2)
    rwa [h.write batch w]
  commit m w hw := by rwa [h.commit m w]

/-- Every question keeps `K`, a close then brings about `R`, and what else a pass does to the world
keeps both. -/
structure Pipeline.Closes (p : Pipeline ω ρ) (source : Source ω) (store : Store ω)
    (K R : ω → Prop) : Prop where
  ask : ∀ c, (source.ask c).Keeps K
  close : ∀ w, K w → R (source.ask .closeScan w).2
  keeps : p.Keeps store K
  stays : p.Keeps store R

namespace Extraction

variable {source : Source ω} {decode : Decoder ρ} {K R : ω → Prop} {x x' : Extraction ω}
  {page : Option (Page ρ)}

/-- What questions keep is kept by a turn, and what a close brings about holds when it finished. -/
theorem Turns.closed (hask : ∀ c, (source.ask c).Keeps K)
    (hclose : ∀ w, K w → R (source.ask .closeScan w).2)
    (hx : K x.world ∧ ∀ reason, x.worker.phase = .finished reason → R x.world)
    (h : Turns source decode x page x') :
    K x'.world ∧ ∀ reason, x'.worker.phase = .finished reason → R x'.world := by
  have hasked {c : SourceCall} {w w' : ω} {o : Outcome SourceError c.Answer} (hw : K w)
      (h : source.ask c w = (o, w')) : K w' := by
    have hkept := hask c w hw
    rwa [h] at hkept
  have hclosed {w w' : ω} {o : Outcome SourceError Unit} (hw : K w)
      (h : source.ask .closeScan w = (o, w')) : R w' := by
    have hreleased := hclose w hw
    rwa [h] at hreleased
  cases h with
  | done hphase => exact hx
  | opened hphase hopen => exact ⟨hasked hx.1 hopen, fun _ => WorkerPhase.noConfusion⟩
  | passed hphase hfetch hstale hrows hfull =>
    refine ⟨hasked hx.1 hfetch, fun reason hfinished => ?_⟩
    cases hphase.symm.trans hfinished
  | ended hphase hfetch hstale hlast hlooks hclose =>
    have hlooked := hasked hx.1 hfetch
    cases hlooks with
    | past hnot => exact ⟨hasked hlooked hclose, fun _ _ => hclosed hlooked hclose⟩
    | up hempty hprobes hprobe =>
      have hprobed := hasked hlooked hprobe
      exact ⟨hasked hprobed hclose, fun _ _ => hclosed hprobed hclose⟩
  | yielded hphase hfetch hfresh hfull hrebuilds =>
    obtain ⟨docs, henrich, -⟩ := hrebuilds
    refine ⟨hasked (hasked hx.1 hfetch) henrich, fun reason hfinished => ?_⟩
    rw [Worker.yielding_phase, Worker.counting_phase, hphase] at hfinished
    cases hfinished
  | yieldedLast hphase hfetch hfresh hlast hrebuilds hclose =>
    obtain ⟨docs, henrich, -⟩ := hrebuilds
    have hrebuilt := hasked (hasked hx.1 hfetch) henrich
    exact ⟨hasked hrebuilt hclose, fun _ _ => hclosed hrebuilt hclose⟩

end Extraction

namespace Pipeline.Closes

variable {p : Pipeline ω ρ} {source : Source ω} {store : Store ω} {allowance : Nat}
  {spec : WorkerSpec} {st : PassState ω} {K R : ω → Prop}

/-- A rule for what questions and batches keep, and for what a close brings about. -/
theorem drainRule (hcloses : p.Closes source store K R) :
    p.DrainRule source spec.stream allowance
      (fun _ _ x => K x.world ∧ ∀ reason, x.worker.phase = .finished reason → R x.world)
      (fun w => ∃ reason, w.phase = .finished reason) (fun _ x => K x.world) where
  page placed x hx := by
    refine (Extraction.ends_nextPage_kept (F := fun x => K x.world)
      (fun y page y' hy hturn => hturn.closed hcloses.ask hcloses.close hy)
      (fun y y' hy hstumble => hstumble.asksAny.keeps hcloses.ask hy.1) (fun _ hy => hy.1)
      allowance hx).imp fun page x' h => ?_
    obtain ⟨hx', y, -, hlast⟩ := h
    refine ⟨hx', ?_⟩
    rintro reason rfl
    exact hlast.finished
  place _ _ _ _ _ hx _ := hx
  refuse _ _ _ _ _ hx _ := hx.1
  write hand batch placed x hx := by
    have hkept := hcloses.keeps.write batch x.world hx.1
    have hreleased : ∀ reason, x.worker.phase = .finished reason →
        R (p.loader.write batch x.world).2 :=
      fun reason h => hcloses.stays.write batch x.world (hx.2 reason h)
    rw [Call.ends_iff]
    refine ⟨fun result world h => ?_, fun e world h => ?_, fun world h => ?_⟩ <;>
      rw [h] at hkept hreleased
    · split
      · exact ⟨hkept, hreleased⟩
      · exact hkept
    · exact hkept
    · exact hkept
  unfinished _ _ hx := hx.1

/-- A drained worker has closed its scan. -/
theorem ends_drain (hcloses : p.Closes source store K R) (hst : K st.book.world) :
    (p.drain source spec allowance).Ends (fun _ st' => K st'.book.world ∧ R st'.book.world)
      (fun _ st' => K st'.book.world) st := by
  refine (hcloses.drainRule.ends_drain ⟨hst, fun _ => WorkerPhase.noConfusion⟩).mono
    (fun w st' h => ?_) fun e st' h => ?_
  · obtain ⟨-, ⟨reason, hphase⟩, hkept, hreleased⟩ := h
    exact ⟨hkept, hreleased reason hphase⟩
  · obtain ⟨-, w, hkept⟩ := h
    exact hkept

/-- So has a worker that ran, and one that fails is followed by a close. -/
theorem ends_runGuarded (hcloses : p.Closes source store K R) (hst : K st.book.world) :
    (p.runGuarded source store spec allowance).Ends
      (fun _ st' => K st'.book.world ∧ R st'.book.world)
      (fun e st' => K st'.book.world ∧ (e ≠ none → R st'.book.world)) st := by
  have hreleased : ∀ (e : Option PipelineError) (st' : PassState ω), K st'.book.world →
      let left := if e.isSome then
        { st' with book := { st'.book with world := (source.ask .closeScan st'.book.world).2 } }
        else st'
      K left.book.world ∧ (e ≠ none → R left.book.world) := by
    rintro (_ | e) st' hkept
    · exact ⟨hkept, fun hnone => absurd rfl hnone⟩
    · exact ⟨hcloses.ask .closeScan _ hkept, fun _ => hcloses.close _ hkept⟩
  rw [Pipeline.ends_runGuarded, ends_runWorker]
  refine (hcloses.ends_drain hst).mono (fun w st' h => ?_) hreleased
  split
  · have hkept := hcloses.keeps.commit (st.book.cursors.insert spec.stream (some w.cursor)) _ h.1
    have hstays := hcloses.stays.commit (st.book.cursors.insert spec.stream (some w.cursor)) _ h.2
    rcases hcommit : store.commit (st.book.cursors.insert spec.stream (some w.cursor))
      st'.book.world with ⟨e | _, world⟩ <;> rw [hcommit] at hkept hstays
    · exact hreleased (some (.state e)) ⟨⟨st.book.cursors, world⟩, st'.report⟩ hkept
    · exact ⟨hkept, hstays⟩
  · exact h

/-- Workers that ran one after the other leave what the last close brought about. -/
theorem ends_runAll (hcloses : p.Closes source store K R) (specs : List WorkerSpec)
    (hst : K st.book.world) :
    (p.runAll source store allowance specs).Ends
      (fun _ st' => K st'.book.world ∧ (R st'.book.world ∨ specs = [] ∧ st' = st))
      (fun e st' => K st'.book.world ∧ (e ≠ none → R st'.book.world)) st := by
  induction specs generalizing st with
  | nil => exact Call.ends_pure.2 ⟨hst, .inr ⟨rfl, rfl⟩⟩
  | cons spec rest ih =>
    rw [runAll, Call.ends_bind]
    refine (hcloses.ends_runGuarded hst).imp fun _ st₁ h => ?_
    refine (ih h.1).imp fun _ st₂ h' => ⟨h'.1, .inl ?_⟩
    rcases h'.2 with hreleased | ⟨-, rfl⟩
    · exact hreleased
    · exact h.2

/-- A pass that is over leaves what a close brings about, unless it has no worker. -/
theorem ends_execute (hcloses : p.Closes source store K R) {b : Book ω} (hb : K b.world) :
    (p.execute source store allowance).Ends
      (fun _ b' => K b'.world ∧ (R b'.world ∨ p.workers = [] ∧ b' = b))
      (fun e b' => K b'.world ∧ (e ≠ none → R b'.world)) b := by
  rw [Pipeline.ends_execute]
  have hstart : K (⟨b, .zero⟩ : PassState ω).book.world := hb
  refine (hcloses.ends_runAll p.workers hstart).imp fun _ st h => ⟨h.1, ?_⟩
  exact h.2.imp_right (And.imp_right (congrArg PassState.book))

end Pipeline.Closes

end CatalogSync
