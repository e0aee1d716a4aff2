import CatalogSync.Proofs.Pass.Log
import CatalogSync.Proofs.Pass.Rule

/-!
# What a worker yields

A worker only asks its source. The records on its pages are, in order, those that its source
answered with. When it yields no page, the last thing it asked was not answered as it should be,
which is its error if there was an answer at all, or else it is out of steps.
-/

namespace CatalogSync

/-- What a worker over the stream fails with at an answer of its source, if it does. -/
def PassEvent.sourceError? {ρ : Type} (decode : Decoder ρ) (stream : String) :
    PassEvent → Option SourceError
  | asked _ (.error e) => some e
  | asked (.enrich ..) (.ok docs) =>
    match List.mapM decode docs with
    | .ok _ => none
    | .error e => some (malformedAggregate stream e)
  | _ => none

/-- How a worker that asks for a page comes to have none: under an error of its source, or without
one. Before its end everything succeeded. -/
inductive SourceHalts {ρ : Type} (decode : Decoder ρ) (stream : String) :
    List PassEvent → Option SourceError → Prop where
  /-- Nothing had been yielded when a question was not answered as it should be. -/
  | asking {quiet : List PassEvent} {event : PassEvent} (hquiet : Succeeded decode quiet)
      (hnothing : yielded decode quiet = []) (hasked : event.IsAsked)
      (hevent : ¬event.Succeeds decode) :
    SourceHalts decode stream (quiet ++ [event]) (event.sourceError? decode stream)
  /-- The records of the page were there, but the scan behind it could not be closed. -/
  | closing {quiet : List PassEvent} {aggregate : Aggregate} {ids : List String}
      {docs : List Json} {records : List ρ} {answer : Outcome SourceError Unit}
      (hquiet : Succeeded decode quiet) (hnothing : yielded decode quiet = [])
      (hdocs : List.mapM decode docs = .ok records)
      (hanswer : ¬(PassEvent.asked .closeScan answer).Succeeds decode) :
    SourceHalts decode stream
      (quiet ++ [.asked (.enrich aggregate ids) (.ok docs)] ++ [.asked .closeScan answer])
      ((PassEvent.asked .closeScan answer).sourceError? decode stream)
  /-- The steps ran out between two questions. -/
  | spent {quiet : List PassEvent} (hquiet : Succeeded decode quiet)
      (hnothing : yielded decode quiet = []) : SourceHalts decode stream quiet none

namespace Extraction

variable {ω ρ : Type} (decode : Decoder ρ)

/-- The worker came from one place to another by asking its source, and yielded some records on the
way. -/
def Yields (x : Extraction (Logged ω)) (records : List ρ) (x' : Extraction (Logged ω)) : Prop :=
  x.worker.IsSame x'.worker ∧ ∃ part, x'.world.events = x.world.events ++ part ∧
    (∀ event ∈ part, event.IsAsked) ∧ Succeeded decode part ∧ yielded decode part = records

/-- The worker yielded nothing until the last answer of its source, which holds these records. -/
def IsHanded (x : Extraction (Logged ω)) (records : List ρ) (x' : Extraction (Logged ω)) : Prop :=
  ∃ y aggregate ids docs, Yields decode x [] y ∧ y.worker.IsSame x'.worker ∧
    x'.world.events = y.world.events ++ [.asked (.enrich aggregate ids) (.ok docs)] ∧
    List.mapM decode docs = .ok records

/-- The worker asked its source until it failed, or did not finish. -/
def Faults (x : Extraction (Logged ω)) (e : Option SourceError) (x' : Extraction (Logged ω)) :
    Prop :=
  ∃ part, x'.world.events = x.world.events ++ part ∧ (∀ event ∈ part, event.IsAsked) ∧
    SourceHalts decode x.worker.spec.stream part e

variable {decode}

variable {x y z : Extraction (Logged ω)} {records more : List ρ}

theorem Yields.refl (decode : Decoder ρ) (x : Extraction (Logged ω)) : Yields decode x [] x :=
  ⟨.refl _, [], by simp⟩

/-- What is yielded on two ways in a row is yielded on the whole of it. -/
theorem Yields.trans (hxy : Yields decode x records y) (hyz : Yields decode y more z) :
    Yields decode x (records ++ more) z := by
  obtain ⟨hsame, part, hevents, hasked, hsucceeded, hyield⟩ := hxy
  obtain ⟨hsame', part', hevents', hasked', hsucceeded', hyield'⟩ := hyz
  refine ⟨hsame.trans hsame', part ++ part', ?_, ?_, ?_, ?_⟩
  · rw [hevents', hevents, List.append_assoc]
  · exact List.forall_mem_append.2 ⟨hasked, hasked'⟩
  · exact (succeeded_append ..).2 ⟨hsucceeded, hsucceeded'⟩
  · rw [yielded_append, hyield, hyield']

/-- A step may change the worker but not what it is over. -/
theorem Yields.withWorker (h : Yields decode x records y) {w : Worker} (hw : y.worker.IsSame w) :
    Yields decode x records { y with worker := w } := by
  obtain ⟨hsame, part, hpart⟩ := h
  exact ⟨hsame.trans hw, part, hpart⟩

/-- A worker that has yielded nothing may come to the end of its steps. -/
theorem Yields.spent (h : Yields decode x [] y) : Faults decode x none y := by
  obtain ⟨-, part, hevents, hasked, hsucceeded, hnothing⟩ := h
  exact ⟨part, hevents, hasked, .spent hsucceeded hnothing⟩

/-- A worker that has yielded nothing stops at an answer that it cannot go on with. -/
theorem Yields.faults (h : Yields decode x [] y) (c : SourceCall)
    {answer : Outcome SourceError c.Answer}
    (hanswer : ¬(PassEvent.asked c answer).Succeeds decode) {e : Option SourceError}
    (he : (PassEvent.asked c answer).sourceError? decode y.worker.spec.stream = e) (w : Worker)
    (world : ω) : Faults decode x e ⟨w, ⟨world, y.world.events ++ [.asked c answer]⟩⟩ := by
  obtain ⟨hsame, part, hevents, hpart, hsucceeded, hnothing⟩ := h
  refine ⟨part ++ [.asked c answer], ?_, ?_, ?_⟩
  · rw [hevents, List.append_assoc]
  · exact List.forall_mem_append.2 ⟨hpart, List.forall_mem_singleton.2 trivial⟩
  · rw [← he, hsame.spec]
    exact .asking hsucceeded hnothing trivial hanswer

/-- The records of the last answer were yielded. -/
theorem IsHanded.yields (h : IsHanded decode x records y) : Yields decode x records y := by
  obtain ⟨z, aggregate, ids, docs, ⟨hsame, part, hevents, hasked, hsucceeded, hnothing⟩, hsame',
    hlast, hdocs⟩ := h
  refine ⟨hsame.trans hsame', part ++ [.asked (.enrich aggregate ids) (.ok docs)], ?_, ?_, ?_, ?_⟩
  · rw [hlast, hevents, List.append_assoc]
  · exact List.forall_mem_append.2 ⟨hasked, List.forall_mem_singleton.2 trivial⟩
  · exact (succeeded_append ..).2 ⟨hsucceeded, (succeeded_singleton ..).2 ⟨records, hdocs⟩⟩
  · rw [yielded_append, hnothing, yielded_singleton, List.nil_append]
    simp only [PassEvent.records, hdocs]

/-- The worker may be changed behind its last answer. -/
theorem IsHanded.withWorker (h : IsHanded decode x records y) {w : Worker}
    (hw : y.worker.IsSame w) : IsHanded decode x records { y with worker := w } := by
  obtain ⟨z, aggregate, ids, docs, hz, hsame, hlast, hdocs⟩ := h
  exact ⟨z, aggregate, ids, docs, hz, hsame.trans hw, hlast, hdocs⟩

variable {source : Source ω}

/-- Every question but that for aggregates yields nothing. -/
theorem Yields.then_ask (h : Yields decode x [] y) (c : SourceCall)
    (hc : ∀ a, PassEvent.Succeeds decode (.asked c (.ok a)) ∧
      (PassEvent.asked c (.ok a)).records decode = []) :
    (ask source.logged c).Ends (fun _ z => Yields decode x [] z) (Faults decode x) y := by
  rw [ends_ask]
  refine Logged.ends_call (fun a world => ?_) (fun e world => ?_) fun world => ?_
  · have hstep : Yields decode y []
        { y with world := ⟨world, y.world.events ++ [.asked c (.ok a)]⟩ } := by
      refine ⟨.refl _, _, rfl, ?_, (succeeded_singleton ..).2 (hc a).1, ?_⟩
      · simp [PassEvent.IsAsked]
      · rw [yielded_singleton, (hc a).2]
    simpa using h.trans hstep
  · exact h.faults c (PassEvent.not_succeeds_asked (by simp)) rfl _ _
  · exact h.faults c (PassEvent.not_succeeds_asked (by simp)) rfl _ _

/-- The scan may be closed behind the records of a last page. -/
theorem IsHanded.then_close (h : IsHanded decode x records y) :
    (ask source.logged .closeScan).Ends (fun _ z => Yields decode x records z)
      (Faults decode x) y := by
  have hyields := h.yields
  obtain ⟨z, aggregate, ids, docs, ⟨hsame, part, hevents, hasked, hsucceeded, hnothing⟩, hsame',
    hlast, hdocs⟩ := h
  have hfaults {answer : Outcome SourceError Unit} (world : ω) {e : Option SourceError}
      (hanswer : ¬(PassEvent.asked .closeScan answer).Succeeds decode)
      (he : (PassEvent.asked .closeScan answer).sourceError? decode x.worker.spec.stream = e) :
      Faults decode x e
        { y with world := ⟨world, y.world.events ++ [.asked .closeScan answer]⟩ } := by
    refine ⟨part ++ [.asked (.enrich aggregate ids) (.ok docs)] ++ [.asked .closeScan answer],
      ?_, ?_, ?_⟩
    · simp only [hlast, hevents, List.append_assoc]
    · simpa [PassEvent.IsAsked, or_imp, forall_and] using hasked
    · rw [← he]
      exact .closing hsucceeded hnothing hdocs hanswer
  rw [ends_ask]
  refine Logged.ends_call (fun a world => ?_)
    (fun e world => hfaults world (PassEvent.not_succeeds_asked (by simp)) rfl)
    fun world => hfaults world (PassEvent.not_succeeds_asked (by simp)) rfl
  · have hstep : Yields decode y []
        { y with world := ⟨world, y.world.events ++ [.asked .closeScan (.ok a)]⟩ } :=
      ⟨.refl _, _, rfl, by simp [PassEvent.IsAsked], (succeeded_singleton ..).2 ⟨a, rfl⟩, rfl⟩
    simpa using hyields.trans hstep

/-- The greatest row may be asked for. -/
theorem Yields.then_probe (h : Yields decode x [] y) :
    (probe source.logged).Ends (fun _ z => Yields decode x [] z) (Faults decode x) y := by
  simp only [probe, Call.ends_bind, ends_worker?]
  refine (h.then_ask (.probe _) fun a => ⟨⟨a, rfl⟩, rfl⟩).imp fun answer z hz => ?_
  cases answer with
  | none => exact Call.ends_pure.2 hz
  | some greatest => exact ends_update.2 (hz.withWorker (Worker.isSame_raise _ _))

/-- A scan without a fresh row is ended without a record. -/
theorem Yields.then_finish (h : Yields decode x [] y) :
    (finish source.logged).Ends (fun _ z => Yields decode x [] z) (Faults decode x) y := by
  simp only [finish, Call.ends_bind, ends_worker?]
  split
  · simp only [Call.ends_bind, ends_worker?, ends_update, Call.ends_pure]
    refine h.then_probe.imp fun _ z hz =>
      (hz.then_ask .closeScan fun a => ⟨⟨a, rfl⟩, rfl⟩).imp fun _ u hu => ?_
    exact hu.withWorker ⟨rfl, rfl, rfl, rfl, rfl⟩
  · simp only [ends_worker?, Call.ends_bind, ends_update, Call.ends_pure]
    refine (h.then_ask .closeScan fun a => ⟨⟨a, rfl⟩, rfl⟩).imp fun _ u hu => ?_
    exact hu.withWorker ⟨rfl, rfl, rfl, rfl, rfl⟩

/-- The records of some rows are those of the one answer with their aggregates. -/
theorem Yields.then_recordsOf (h : Yields decode x [] y) (fresh : List ChangeRow) :
    (recordsOf source.logged decode fresh).Ends (fun records z => IsHanded decode x records z)
      (Faults decode x) y := by
  simp only [recordsOf, Call.ends_bind, ends_worker?]
  refine (ends_ask (c := .enrich _ _)).2 (Logged.ends_call (fun docs world => ?_)
    (fun e world => ?_) fun world => ?_)
  · cases hdocs : List.mapM decode docs with
    | ok records => exact Call.ends_pure.2 ⟨y, _, _, docs, h, .refl _, rfl, hdocs⟩
    | error e =>
      refine Call.ends_fail.2 (h.faults (.enrich _ _) ?_ ?_ _ _)
      · rintro ⟨records, hrecords⟩
        cases hdocs.symm.trans hrecords
      · simp only [PassEvent.sourceError?, hdocs]
  · exact h.faults (.enrich _ _) (PassEvent.not_succeeds_asked (by simp)) rfl _ _
  · exact h.faults (.enrich _ _) (PassEvent.not_succeeds_asked (by simp)) rfl _ _

/-- A page is yielded whole or not at all. -/
theorem Yields.then_emit (h : Yields decode x [] y) (fresh : List ChangeRow) (short : Bool) :
    (emit source.logged decode fresh short).Ends
      (fun records z => Yields decode x records z) (Faults decode x) y := by
  simp only [emit_eq, Call.ends_bind, ends_update]
  refine (h.then_recordsOf fresh).imp fun records z hz => ?_
  have hmoved := hz.withWorker (z.worker.isSame_yielding fresh records.length)
  split
  · simp only [Call.ends_bind, ends_update, Call.ends_pure]
    refine hmoved.then_close.imp fun _ u hu => ?_
    exact hu.withWorker ⟨rfl, rfl, rfl, rfl, rfl⟩
  · exact Call.ends_pure.2 hmoved.yields

/-- A turn yields the records of its page, if it has one. -/
theorem Yields.then_turn (h : Yields decode x [] y) :
    (turn source.logged decode).Ends
      (fun page z => Yields decode x ((page.map Page.toList).getD []) z) (Faults decode x) y := by
  simp only [turn, Call.ends_bind, ends_worker?]
  split
  · exact Call.ends_pure.2 h
  · simp only [Call.ends_bind, ends_update, Call.ends_pure]
    refine (h.then_ask (.openScan ..) fun a => ⟨⟨a, rfl⟩, rfl⟩).imp fun _ z hz => ?_
    exact hz.withWorker ⟨rfl, rfl, rfl, rfl, rfl⟩
  · simp only [Call.ends_bind, ends_update]
    refine (h.then_ask (.fetch _) fun a => ⟨⟨a, rfl⟩, rfl⟩).imp fun rows z hz => ?_
    have hcounted := hz.withWorker
      (w := { z.worker with rowsSeen := z.worker.rowsSeen + rows.length }) ⟨rfl, rfl, rfl, rfl, rfl⟩
    split
    · split
      · exact Call.ends_pure.2 hcounted
      · exact Call.ends_bind.2 (hcounted.then_finish.imp fun _ u hu => hu)
    · exact Call.ends_bind.2 ((hcounted.then_emit _ _).imp fun _ u hu => hu)

/-- The next page of a worker holds what the source answered with. -/
theorem Yields.then_nextPage (h : Yields decode x [] y) (allowance : Nat) :
    (nextPage source.logged decode allowance).Ends
      (fun page z => Yields decode x page.toList z) (Faults decode x) y := by
  refine Call.ends_untilSome (I := fun z => Yields decode x [] z) (fun z hz => ?_)
    (fun z hz => hz.spent) allowance h
  refine hz.then_turn.imp fun page u hu => ?_
  cases page with
  | some page => exact hu
  | none => exact hu

end Extraction

end CatalogSync
