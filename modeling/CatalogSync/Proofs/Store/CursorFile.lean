import CatalogSync.Proofs.Store.CursorText
import CatalogSync.Proofs.Store.FileSystem
import Mathlib

/-!
# What is committed is loaded

A commit that succeeds leaves the text of its map at the target, whatever was there before, and
that text is read as the map.
-/

namespace CatalogSync.CursorFile

variable {fs fs' : FileSystem}

/-- Steps are run one after the other. -/
theorem runSteps_append (fs : FileSystem) (steps rest : List Step) :
    runSteps fs (steps ++ rest) = match runSteps fs steps with
      | (none, fs) => runSteps fs rest
      | (some fault, fs) => (some fault, fs) := by
  induction steps generalizing fs with
  | nil => rfl
  | cons step steps ih =>
    rw [List.cons_append, runSteps, runSteps]
    rcases step.run fs with fault | fs
    · rfl
    · exact ih fs

/-- A step that ran, and those after it. -/
theorem runSteps_cons_eq_none {step : Step} {steps : List Step} :
    runSteps fs (step :: steps) = (none, fs') ↔
      ∃ fs₁, step.run fs = .ok fs₁ ∧ runSteps fs₁ steps = (none, fs') := by
  rw [runSteps]
  rcases step.run fs with fault | fs₁ <;> simp

/-- The text is complete before it is moved to its target, and there after that. -/
theorem read_of_runSteps {target temporary : Path} {m : CursorMap}
    (h : runSteps fs (commitSteps target temporary m) = (none, fs')) :
    fs'.read target = .ok (text m).toUTF8 := by
  unfold commitSteps at h
  rw [runSteps_append] at h
  split at h
  · next fs₀ _ =>
    simp only [runSteps_cons_eq_none] at h
    obtain ⟨fs₁, hcreate, fs₂, hmap, fs₃, hnewline, fs₄, hsync, fs₅, hrename, hdone⟩ := h
    cases hsync
    cases hdone
    have hempty : fs₁.read temporary = .ok .empty := FileSystem.read_createFile hcreate
    have hmapped := FileSystem.read_append hempty hmap
    have hwhole := FileSystem.read_append hmapped hnewline
    have htext : ByteArray.empty ++ m.toJson.indented.toUTF8 ++ "\n".toUTF8 = (text m).toUTF8 := by
      rw [ByteArray.empty_append]
      exact String.toByteArray_append.symm
    rw [← htext]
    exact FileSystem.read_rename hwhole hrename
  · cases h

/-- A commit succeeds when all of its steps do. -/
theorem runSteps_of_commit {target : Path} {m : CursorMap}
    (h : commit target m fs = (.ok (), fs')) :
    runSteps fs (commitSteps target (target.parent ++ [fs.freshName target]) m) = (none, fs') := by
  unfold commit at h
  dsimp only at h
  split at h
  · next hrun =>
    cases h
    exact hrun
  · cases h

/-- The map is loaded whose text is read. -/
theorem load_of_read {target : Path} {m : CursorMap} (h : fs.read target = .ok (text m).toUTF8) :
    load target fs = .ok m := by
  rw [load, h]
  exact congrArg Except.ok (ofBytes_text m)

/-- A map is read back from its text, so that no two maps have the same. A commit that succeeds
leaves that text at its target, and the map is loaded from there. -/
theorem text_determines_map (m : CursorMap) :
    ofText? (text m) = some m ∧ (∀ m', text m = text m' → m = m') ∧
      ∀ target fs fs', commit target m fs = (.ok (), fs') →
        fs'.read target = .ok (text m).toUTF8 ∧ load target fs' = .ok m := by
  refine ⟨ofText?_text m, fun m' htext => ?_, fun target fs fs' hcommit => ?_⟩
  · have hread := ofText?_text m
    rw [htext, ofText?_text m', Option.some.injEq] at hread
    exact hread.symm
  · have hread := read_of_runSteps (runSteps_of_commit hcommit)
    exact ⟨hread, load_of_read hread⟩

/-- A leap second in a year of five digits, with a fraction. -/
def leapSecond : Timestamp where
  date := ⟨12345, 6, 30, by decide, by decide, by decide⟩
  second := 86399
  nano := 1000500000
  second_lt := by decide
  nano_lt := by decide

/-- Streams whose names and ids have to be escaped or are empty, with and without a cursor. -/
def oddMap : CursorMap :=
  .ofList [("", none), ("\"\\\n\x01😀", some ⟨leapSecond, some ""⟩), ("plain", some ⟨.first, none⟩)]

/-- They are loaded as they were committed to a file that was not there. -/
theorem load_oddMap : (commit ["cursors.json"] oddMap .empty).1 = .ok () ∧
    load ["cursors.json"] (commit ["cursors.json"] oddMap .empty).2 = .ok oddMap := by
  have hcommit : (commit ["cursors.json"] oddMap .empty).1 = .ok () := by cbv
  refine ⟨hcommit, ?_⟩
  obtain ⟨-, -, hload⟩ := text_determines_map oddMap
  exact (hload _ _ _ (Prod.ext hcommit rfl)).2

end CatalogSync.CursorFile
