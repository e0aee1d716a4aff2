import CatalogSync.Proofs.Store.CursorFile
import CatalogSync.Proofs.Store.Temporary

/-!
# A commit happens or does not

Until the rename a commit has only made directories and a temporary file. Neither is noticed by who
loads the map, as long as the directories do not lead a path to where it did not lead before: a path
with `..` may go on from a new directory, and a name that is too long is only refused where there is
a directory to look for it in.
-/

namespace CatalogSync.FileSystem

variable {fs fs' : FileSystem} {place : Path}

/-- A path leads to a directory. -/
def IsDirectory (fs : FileSystem) (p : Path) : Prop :=
  ∃ place, fs.locate p = .ok place ∧ fs.node place = some .directory

/-- The same files are in both file systems. -/
def SameFiles (fs fs' : FileSystem) : Prop :=
  ∀ place bytes, fs'.node place = some (.file bytes) ↔ fs.node place = some (.file bytes)

/-- As long as no directory goes away, a path leads to one, or to a place of fewer names than so
many. -/
def LeadsNoDeeper (fs : FileSystem) (bound : Nat) (p : Path) : Prop :=
  ∀ fs', fs.KeepsDirectories fs' → ∀ place, fs'.locate p = .ok place →
    fs'.node place = some .directory ∨ place.length < bound

/-- Names are followed from a directory to a directory. -/
theorem node_of_walk_append {names rest : List String} {next : Path}
    (hwalk : fs.walk place (names ++ rest) = .ok next) (hnext : fs.node next = some .directory)
    {between : Path} (hbetween : fs.walk place names = .ok between) :
    fs.node between = some .directory := by
  rw [walk_append, hbetween] at hwalk
  change fs.walk between rest = .ok next at hwalk
  cases rest with
  | nil =>
    cases hwalk
    exact hnext
  | cons name rest =>
    obtain ⟨entered, henter, -⟩ := walk_cons_eq_ok.1 hwalk
    exact (enter_cases henter).1

/-- Every path that a directory's path begins with leads to a directory. -/
theorem IsDirectory.leadsNoDeeper {p q : Path} (hp : fs.IsDirectory p) (hq : q ∈ p.prefixes) :
    fs.LeadsNoDeeper 0 q := by
  obtain ⟨n, -, rfl⟩ := List.mem_map.1 hq
  obtain ⟨directory, hlocate, hdirectory⟩ := hp
  intro fs' hkeeps place hplace
  have hwalk := (locate_eq_ok.1 (hkeeps.locate hlocate)).2
  rw [← List.take_append_drop (n + 1) p] at hwalk
  exact .inl (node_of_walk_append hwalk (hkeeps _ hdirectory) (locate_eq_ok.1 hplace).2)

/-- A path leads to no more names than it has. -/
theorem leadsNoDeeper_of_length_lt {p : Path} {bound : Nat} (h : p.length < bound) :
    fs.LeadsNoDeeper bound p := by
  intro fs' _ place hplace
  have hlength := length_walk_le (locate_eq_ok.1 hplace).2
  rw [List.length_nil] at hlength
  exact .inr (by omega)

end CatalogSync.FileSystem

namespace CatalogSync.Path

open FileSystem (depthOf depthOf_eq_length)

/-- The name `.` is only kept where a text ends. -/
theorem dot_notMem_dropLast_ofText (s : String) : "." ∉ (ofText s).dropLast := by
  let pieces := (s.toList.splitOn '/').map String.ofList
  let names := pieces.filter fun name => name ≠ "" ∧ name ≠ "."
  have hnames : "." ∉ names := by simp [names]
  change "." ∉ (if s = "" then [""]
    else if names ≠ [] ∧ pieces.getLast? ≠ names.getLast? then names ++ ["."]
    else names).dropLast
  split
  · exact List.not_mem_nil
  · split
    · rwa [List.dropLast_concat]
    · exact fun hmem => hnames ((List.dropLast_sublist names).mem hmem)

/-- The directory a path is in has fewer names than lead down to the path. -/
theorem length_parent_lt {p : Path} (hdot : "." ∉ p.dropLast) (h : p.parent ≠ []) :
    p.parent.length < depthOf p := by
  rcases p.eq_nil_or_concat with rfl | ⟨init, last, rfl⟩
  · exact absurd rfl h
  · rw [List.concat_eq_append, List.dropLast_concat] at hdot
    unfold parent at h ⊢
    simp only [List.concat_eq_append, List.getLast?_concat, Option.some.injEq,
      List.dropLast_concat] at h ⊢
    by_cases hlast : last = "."
    · rw [if_pos hlast] at h ⊢
      have hinit : 0 < init.length := by
        cases init with
        | nil => exact absurd rfl h
        | cons => exact Nat.succ_pos _
      have hdepth' : depthOf (init ++ [last]) = init.length := by
        rw [hlast, ← depthOf_eq_length hdot]
        simp [depthOf]
      rw [hdepth', List.length_dropLast]
      omega
    · rw [if_neg hlast]
      have hmem : "." ∉ init ++ [last] := by simpa [Ne.symm hlast] using hdot
      rw [depthOf_eq_length hmem, List.length_append]
      exact Nat.lt_succ_self _

end CatalogSync.Path

namespace CatalogSync.CursorFile

open FileSystem (Stages PassesMade AreStraight depthOf MakesDirectories)

variable {fs fs' : FileSystem} {target temporary : Path} {m : CursorMap}

/-- What a step leaves that is cut short: the first of the bytes it writes are there. All other
steps are done at once. -/
inductive Step.Tears : Step → FileSystem → FileSystem → Prop
  | append {path : Path} {text : String} {written rest : ByteArray} {fs fs' : FileSystem}
    (htext : text.toUTF8 = written ++ rest) (hrun : fs.append path written = .ok fs') :
    Tears (.append path text) fs fs'

/-- What steps leave when they are not all done, be it that one fails or that the process ends. -/
inductive Stops : FileSystem → List Step → FileSystem → Prop
  | before (fs : FileSystem) (step : Step) (steps : List Step) : Stops fs (step :: steps) fs
  | within {fs fs' : FileSystem} {step : Step} (htears : step.Tears fs fs') (steps : List Step) :
    Stops fs (step :: steps) fs'
  | after {fs fs₁ fs' : FileSystem} {step : Step} {steps : List Step} (hrun : step.run fs = .ok fs₁)
    (hstops : Stops fs₁ steps fs') : Stops fs (step :: steps) fs'

/-- A step that fails stops those behind it. -/
theorem stops_of_fault {steps : List Step} {fault : FileFault}
    (h : runSteps fs steps = (some fault, fs')) : Stops fs steps fs' := by
  induction steps generalizing fs with
  | nil => cases h
  | cons step steps ih =>
    rw [runSteps] at h
    split at h
    · next hrun => exact .after hrun (ih h)
    · cases h
      exact .before _ step steps

/-- What steps keep, done or cut short, holds wherever they stop; the rename that comes after them
is not done then. -/
theorem Stops.keeps {P : FileSystem → Prop} {steps : List Step} {source : Path}
    (hkeeps : ∀ step ∈ steps, ∀ fs₁ fs₂, step.run fs₁ = .ok fs₂ ∨ step.Tears fs₁ fs₂ →
      P fs₁ → P fs₂)
    (h : Stops fs (steps ++ [.rename source target]) fs') (hfs : P fs) : P fs' := by
  induction steps generalizing fs with
  | nil =>
    cases h with
    | before => exact hfs
    | within htears => cases htears
    | after _ hstops => cases hstops
  | cons step steps ih =>
    have hstep := hkeeps step List.mem_cons_self
    cases h with
    | before => exact hfs
    | within htears => exact hstep _ _ (.inr htears) hfs
    | after hrun hstops =>
      exact ih (fun step hmem => hkeeps step (List.mem_cons_of_mem _ hmem)) hstops
        (hstep _ _ (.inl hrun) hfs)

/-- What a commit does before the rename. -/
def preparation (target temporary : Path) (m : CursorMap) : List Step :=
  .admitDirectory target.parent :: target.parent.prefixes.map .createDirectory ++
    [.createFile temporary, .append temporary m.toJson.indented, .append temporary "\n",
      .sync temporary]

theorem commitSteps_eq (target temporary : Path) (m : CursorMap) :
    commitSteps target temporary m =
      preparation target temporary m ++ [.rename temporary target] := by
  simp [commitSteps, preparation]

section

variable {bound : Nat}

/-- Each step of the preparation goes from one stage to another. -/
theorem stages_of_step (hdeeper : ∀ p ∈ target.parent.prefixes, fs.LeadsNoDeeper bound p)
    {step : Step} (hstep : step ∈ preparation target (target.parent ++ [fs.freshName target]) m)
    {fs₁ fs₂ : FileSystem} (hrun : step.run fs₁ = .ok fs₂ ∨ step.Tears fs₁ fs₂)
    (h : Stages target.parent (fs.freshName target) bound fs fs₁) :
    Stages target.parent (fs.freshName target) bound fs fs₂ := by
  have hdot : fs.freshName target ≠ "." := FileSystem.freshName_ne (by decide) target
  have hdots : fs.freshName target ≠ ".." := FileSystem.freshName_ne (by decide) target
  simp only [preparation, List.mem_append, List.mem_cons, List.mem_map, List.not_mem_nil,
    or_false] at hstep
  rcases hstep with (rfl | ⟨p, hp, rfl⟩) | rfl | rfl | rfl | rfl
  · rcases hrun with hrun | ⟨⟨⟩⟩
    rw [Step.run] at hrun
    rcases hallow : fs₁.admitDirectory target.parent with fault | _
    · rw [hallow] at hrun
      cases hrun
    · rw [hallow] at hrun
      cases hrun
      exact h
  · rcases hrun with hrun | ⟨⟨⟩⟩
    exact h.createDirectory (hdeeper p hp fs₁ (h.keepsDirectories FileSystem.node_of_freshName_mem))
      hrun
  · rcases hrun with hrun | ⟨⟨⟩⟩
    exact h.createFile hdot hdots hrun
  · rcases hrun with hrun | ⟨-, hrun⟩ <;> exact h.append hdot hdots hrun
  · rcases hrun with hrun | ⟨-, hrun⟩ <;> exact h.append hdot hdots hrun
  · rcases hrun with hrun | ⟨⟨⟩⟩
    cases hrun
    exact h

/-- A path that is not affected by the directories made for a commit to it: they are there, or the
path only leads down and can be followed as soon as they are. -/
theorem exists_bound (path : String) (hpath : fs.IsDirectory (Path.ofText path).parent ∨
    AreStraight (Path.ofText path)) : ∃ bound, PassesMade bound [] (Path.ofText path) ∧
      ∀ p ∈ (Path.ofText path).parent.prefixes, fs.LeadsNoDeeper bound p := by
  rcases hpath with hdirectory | hstraight
  · exact ⟨0, .inl rfl, fun p hp => hdirectory.leadsNoDeeper hp⟩
  · refine ⟨depthOf (Path.ofText path), .inr ⟨hstraight, by simp⟩, fun p hp => ?_⟩
    obtain ⟨n, hn, rfl⟩ := List.mem_map.1 hp
    have hparent : (Path.ofText path).parent ≠ [] := by
      intro hnil
      rw [hnil] at hn
      exact absurd hn List.not_mem_nil
    have hlt := Path.length_parent_lt (Path.dot_notMem_dropLast_ofText path) hparent
    exact FileSystem.leadsNoDeeper_of_length_lt ((List.length_take_le' _ _).trans_lt hlt)

/-- What is loaded only depends on what is read. -/
theorem load_congr (h : fs'.read target = fs.read target) : load target fs' = load target fs := by
  rw [load, load, h]

end

/-- A commit to a path whose directory is there, or that has no `..` and no name that is too long.
If it stops anywhere before the rename is done, the map that is loaded is the one from before, and
when the temporary file is deleted the files are, too. If it succeeds its map is loaded, and if it
fails nothing but directories was changed. -/
theorem commit_or_unchanged (path : String) (m : CursorMap) (fs : FileSystem) (hfs : fs.IsTree)
    (hpath : fs.IsDirectory (Path.ofText path).parent ∨ AreStraight (Path.ofText path)) :
    let target := Path.ofText path
    let temporary := target.parent ++ [fs.freshName target]
    (∀ fs', Stops fs (commitSteps target temporary m) fs' →
      load target fs' = load target fs ∧ load target (fs'.unlink temporary) = load target fs ∧
        fs.SameFiles (fs'.unlink temporary)) ∧
    (∀ fs', commit target m fs = (.ok (), fs') → load target fs' = .ok m) ∧
    ∀ e fs', commit target m fs = (.error e, fs') →
      load target fs' = load target fs ∧ fs.SameFiles fs' := by
  intro target temporary
  have hdot : fs.freshName target ≠ "." := FileSystem.freshName_ne (by decide) target
  have hdots : fs.freshName target ≠ ".." := FileSystem.freshName_ne (by decide) target
  have hhidden : fs.freshName target ∉ target := FileSystem.freshName_notMem target
  obtain ⟨bound, hpasses, hdeeper⟩ := exists_bound path hpath
  have hstops : ∀ fs', Stops fs (commitSteps target temporary m) fs' →
      load target fs' = load target fs ∧ load target (fs'.unlink temporary) = load target fs ∧
        fs.SameFiles (fs'.unlink temporary) := fun fs' hstops => by
    rw [commitSteps_eq] at hstops
    have hstages : Stages target.parent (fs.freshName target) bound fs fs' :=
      hstops.keeps (fun step hstep _ _ => stages_of_step hdeeper hstep) (.refl fs)
    refine ⟨?_, ?_, fun place => ?_⟩
    · exact load_congr (FileSystem.read_of_makes hfs hstages.makes hpasses hhidden)
    · exact load_congr (FileSystem.read_of_makes hfs (hstages.unlink hdot hdots) hpasses hhidden)
    · exact hstages.unlink_files hdot hdots FileSystem.node_of_freshName_mem
  refine ⟨hstops, fun fs' hcommit => ?_, fun e fs' hcommit => ?_⟩
  · exact load_of_read (read_of_runSteps (runSteps_of_commit hcommit))
  · unfold commit at hcommit
    dsimp only at hcommit
    split at hcommit
    · cases hcommit
    · next hrun =>
      cases hcommit
      exact (hstops _ (stops_of_fault hrun)).2

/-- A map of one stream without a cursor. -/
def genreMap : CursorMap := .ofList [("genre", none)]

/-- A commit to a directory that is not there yet, stopped after one byte. -/
theorem commit_or_unchanged_torn :
    let target := Path.ofText "state/d"
    let torn : FileSystem :=
      ⟨[(["state", ".tmp000000"], .file "\x7b".toUTF8), (["state"], .directory)]⟩
    FileSystem.IsTree .empty ∧ AreStraight target ∧
      Stops .empty (commitSteps target ["state", ".tmp000000"] genreMap) torn ∧
      load target torn = load target .empty ∧
      FileSystem.empty.SameFiles (torn.unlink ["state", ".tmp000000"]) ∧
      (commit target genreMap .empty).1 = .ok () ∧
      load target (commit target genreMap .empty).2 = .ok genreMap := by
  have htarget : Path.ofText "state/d" = ["state", "d"] := by decide +kernel
  have hfresh : FileSystem.empty.freshName ["state", "d"] = ".tmp000000" := by decide +kernel
  have htree : FileSystem.IsTree .empty := fun place name node hnode => by
    rw [FileSystem.node,
      if_neg (List.append_ne_nil_of_right_ne_nil place (List.cons_ne_nil name []))]
      at hnode
    cases hnode
  have hstraight : AreStraight (Path.ofText "state/d") := by
    rw [htarget, AreStraight]
    decide +kernel
  obtain ⟨hstops, hok, -⟩ := commit_or_unchanged "state/d" genreMap .empty htree (.inr hstraight)
  rw [htarget, hfresh] at hstops
  rw [htarget] at hok hstraight ⊢
  have hallow : Step.run .empty (.admitDirectory ["state"]) = .ok .empty := by cbv
  have hmake :
      Step.run .empty (.createDirectory ["state"]) = .ok ⟨[(["state"], .directory)]⟩ := by cbv
  have hcreate : Step.run ⟨[(["state"], .directory)]⟩ (.createFile ["state", ".tmp000000"]) =
      .ok ⟨[(["state", ".tmp000000"], .file .empty), (["state"], .directory)]⟩ := by cbv
  have htext : genreMap.toJson.indented.toUTF8 =
      "\x7b".toUTF8 ++ "\n  \"genre\": null\n\x7d".toUTF8 := by decide +kernel
  have htorn : Stops .empty (commitSteps ["state", "d"] ["state", ".tmp000000"] genreMap)
      ⟨[(["state", ".tmp000000"], .file "\x7b".toUTF8), (["state"], .directory)]⟩ :=
    .after hallow (.after hmake (.after hcreate (.within (.append htext (by cbv)) _)))
  have hcommit : (commit ["state", "d"] genreMap .empty).1 = .ok () := by cbv
  obtain ⟨hload, -, hfiles⟩ := hstops _ htorn
  exact ⟨htree, hstraight, htorn, hload, hfiles, hcommit, hok _ (Prod.ext hcommit rfl)⟩

/-- A name of one byte more than a name may have. -/
def longName : String := "".pushn 'x' 256

theorem fault?_longName : Path.fault? ["state", longName] = none := by
  have hzero : '\x00' ∉ longName.toList := by
    rw [longName, FileSystem.toList_pushn, String.toList_empty, List.nil_append]
    exact fun hmem => absurd (List.eq_of_mem_replicate hmem) (by decide)
  rw [Path.fault?, if_neg (by simp [hzero])]
  decide +kernel

/-- Otherwise a new directory can be noticed: what was no map is an error when a commit fails on a
directory behind `..`, and already when a name that is too long is looked for. -/
theorem changed_by_new_directory :
    (let target := Path.ofText "state/../d"
      let fs : FileSystem := ⟨[(["d"], .directory)]⟩
      load target fs = .ok .empty ∧
        (commit target genreMap fs).1 = .error (.io FileFault.isDirectory.message) ∧
        load target (commit target genreMap fs).2 = .error (.io FileFault.isDirectory.message)) ∧
    let target := ["state", longName]
    let stopped : FileSystem := ⟨[(["state"], .directory)]⟩
    load target .empty = .ok .empty ∧
      Stops .empty (commitSteps target ["state", ".tmp000000"] genreMap) stopped ∧
      load target stopped = .error (.io FileFault.nameTooLong.message) := by
  have hdots : Path.ofText "state/../d" = ["state", "..", "d"] := by decide +kernel
  rw [hdots]
  have hparent : Path.parent ["state", longName] = ["state"] := by decide +kernel
  have hallow : Step.run .empty (.admitDirectory ["state"]) = .ok .empty := by cbv
  have hmake :
      Step.run .empty (.createDirectory ["state"]) = .ok ⟨[(["state"], .directory)]⟩ := by cbv
  refine ⟨⟨by cbv, by cbv, by cbv⟩, ?_, ?_, ?_⟩
  · rw [load, FileSystem.read_eq, fault?_longName]
    rfl
  · rw [commitSteps, hparent]
    exact .after hallow (.after hmake (.before _ _ _))
  · have hread : FileSystem.readFrom ⟨[(["state"], .directory)]⟩ [] ["state", longName] =
        .error .nameTooLong := by decide +kernel
    rw [load, FileSystem.read_eq, fault?_longName]
    simp only [hread]

end CatalogSync.CursorFile
