import CatalogSync.Proofs.Store.FileSystem
import CatalogSync.Proofs.Timestamp.Reading
import Mathlib.Data.List.Nodup
import Mathlib.Data.List.Perm.Subperm

/-!
# Temporary files

The name of a temporary file is one that is neither in the path it is made for nor anywhere in the
file system. So whatever happens to the file, nothing that was there before is touched: the file is
all that is new, and the directories that had to be made for it.
-/

namespace CatalogSync.FileSystem

variable {fs fs₁ fs₂ : FileSystem} {place : Path}

section Names

theorem toList_pushn (s : String) (c : Char) (n : Nat) :
    (s.pushn c n).toList = s.toList ++ List.replicate n c := by
  induction n with
  | zero => exact (List.append_nil _).symm
  | succ n ih =>
    rw [List.replicate_succ', ← List.append_assoc, ← ih]
    exact String.toList_push c

/-- A number in a name is written with six digits or more. -/
theorem toList_temporaryName (n : Nat) :
    (temporaryName n).toList = ".tmp".toList ++ Timestamp.padded 6 n := by
  have hlength : (toString n).length = (Nat.toDigits 10 n).length := by
    rw [← String.length_toList]
    exact congrArg List.length Nat.toList_repr
  rw [temporaryName, String.toList_append, String.toList_append, toList_pushn, hlength,
    List.append_assoc]
  exact congrArg (fun digits => _ ++ (_ ++ digits)) Nat.toList_repr

/-- No two numbers have the same name. -/
theorem temporaryName_injective : Function.Injective temporaryName := by
  intro n k h
  have hlist := congrArg String.toList h
  rw [toList_temporaryName, toList_temporaryName] at hlist
  have hvalue := congrArg Timestamp.digitsValue (List.append_cancel_left hlist)
  rwa [Timestamp.digitsValue_padded, Timestamp.digitsValue_padded] at hvalue

/-- A temporary name is not one of the two that stand for directories. -/
theorem temporaryName_ne {name : String} (h : name.length < 4) (n : Nat) :
    temporaryName n ≠ name := by
  rintro rfl
  rw [← String.length_toList, toList_temporaryName, List.length_append] at h
  exact absurd h (Nat.not_lt.2 (Nat.le_add_right 4 _))

/-- More names are tried than are taken, and no two are the same, so one of them is free. -/
theorem freshName_cases (fs : FileSystem) (p : Path) : ∃ n, fs.freshName p = temporaryName n ∧
    temporaryName n ∉ p ++ fs.entries.flatMap (·.1) := by
  let taken := p ++ fs.entries.flatMap (·.1)
  let candidates := (List.range (taken.length + 1)).map temporaryName
  have hname : fs.freshName p =
      (candidates.find? fun name => !taken.contains name).getD (temporaryName 0) := rfl
  rcases hfind : candidates.find? fun name => !taken.contains name with _ | name
  · have hsubset : candidates ⊆ taken := fun name hname => by
      simpa using List.find?_eq_none.1 hfind name hname
    have hnodup : candidates.Nodup := List.nodup_range.map temporaryName_injective
    have hlength := (List.subperm_of_subset hnodup hsubset).length_le
    rw [List.length_map, List.length_range] at hlength
    omega
  · obtain ⟨n, -, rfl⟩ := List.mem_map.1 (List.mem_of_find?_eq_some hfind)
    refine ⟨n, ?_, ?_⟩
    · rw [hname, hfind]
      rfl
    · change temporaryName n ∉ taken
      simpa using List.find?_some hfind

theorem freshName_ne {name : String} (h : name.length < 4) (p : Path) : fs.freshName p ≠ name := by
  obtain ⟨n, hn, -⟩ := fs.freshName_cases p
  rw [hn]
  exact temporaryName_ne h n

theorem freshName_notMem (p : Path) : fs.freshName p ∉ p := by
  obtain ⟨n, hn, hfresh⟩ := fs.freshName_cases p
  rw [hn]
  exact fun hmem => hfresh (List.mem_append_left _ hmem)

/-- Nothing is at a place with a fresh name. -/
theorem node_of_freshName_mem {p : Path} (h : fs.freshName p ∈ place) : fs.node place = none := by
  obtain ⟨n, hn, hfresh⟩ := fs.freshName_cases p
  have hroot : place ≠ [] := List.ne_nil_of_mem h
  rw [node, if_neg hroot, List.lookup_eq_none_iff]
  intro entry hentry
  rw [bne_iff_ne]
  rintro rfl
  exact hfresh (List.mem_append_right _ (List.mem_flatMap_of_mem hentry (hn ▸ h)))

end Names

section Places

variable {p : Path}

/-- A path that ends in a name leads to a place with that name. -/
theorem mem_of_locate {dir : Path} {name : String} (hdot : name ≠ ".") (hdots : name ≠ "..")
    (h : fs.locate (dir ++ [name]) = .ok place) : name ∈ place :=
  mem_of_walk hdot hdots (locate_eq_ok.1 h).2

/-- Deleting is noticed only where the path leads. -/
theorem node_unlink_of_ne (h : fs.locate p ≠ .ok place) :
    (fs.unlink p).node place = fs.node place := by
  unfold unlink
  split
  · next left hleft =>
    split
    · refine node_remove_of_ne ?_
      rintro rfl
      exact h hleft
    · rfl
  · rfl

/-- No file is left where the path leads. -/
theorem node_unlink_ne_file {bytes : ByteArray} (h : fs.locate p = .ok place) :
    (fs.unlink p).node place ≠ some (.file bytes) := by
  unfold unlink
  rw [h]
  dsimp only
  split
  · next hfile =>
    rw [node_remove _ _ _ (ne_nil_of_file hfile), if_pos rfl]
    exact nofun
  · next hnofile => exact hnofile bytes

end Places

/-- What a file system is while a temporary file is made: the one before, with directories at places
of fewer names than so many that were made for the file, and with the file. -/
structure Stages (dir : Path) (hidden : String) (bound : Nat) (fs fs' : FileSystem) : Prop where
  makes : MakesDirectories hidden bound fs fs'
  file : ∀ place bytes, fs'.node place = some (.file bytes) →
    fs.node place = some (.file bytes) ∨ fs'.locate (dir ++ [hidden]) = .ok place

namespace Stages

variable {dir p : Path} {hidden : String} {bound : Nat}

theorem refl (fs : FileSystem) : Stages dir hidden bound fs fs :=
  ⟨fun _ _ => .inl rfl, fun _ _ => .inl⟩

/-- With a fresh name, no directory goes away. -/
theorem keepsDirectories (hfresh : ∀ {place}, hidden ∈ place → fs.node place = none)
    (h : Stages dir hidden bound fs fs₁) : fs.KeepsDirectories fs₁ := by
  intro place hdirectory
  have hplace : hidden ∉ place := fun hmem => by
    cases (hfresh hmem).symm.trans hdirectory
  rcases h.makes place hplace with hsame | ⟨-, hmade, -⟩
  · rw [hsame, hdirectory]
  · exact hmade

/-- A directory that is made is not deep, or it was there. -/
theorem createDirectory (h : Stages dir hidden bound fs fs₁)
    (hdepth : ∀ place, fs₁.locate p = .ok place →
      fs₁.node place = some .directory ∨ place.length < bound)
    (hrun : fs₁.createDirectory p = .ok fs₂) : Stages dir hidden bound fs fs₂ := by
  obtain ⟨made, hlocate, ⟨-, rfl⟩ | ⟨hnone, rfl⟩⟩ := createDirectory_eq_ok.1 hrun
  · exact h
  · have hlt : made.length < bound := (hdepth made hlocate).resolve_left (by simp [hnone])
    refine ⟨fun other hother => ?_, fun other bytes hfile => ?_⟩
    · by_cases hmade : other = made
      · subst hmade
        have hbefore : fs.node other = none :=
          (h.makes other hother).elim (fun hsame => hsame ▸ hnone) And.left
        exact .inr ⟨hbefore, by rw [node_set _ _ _ _ (ne_nil_of_none hnone), if_pos rfl], hlt⟩
      · rw [node_set_of_ne hmade]
        exact h.makes other hother
    · have hmade : other ≠ made := by
        rintro rfl
        rw [node_set _ _ _ _ (ne_nil_of_none hnone), if_pos rfl] at hfile
        cases hfile
      rw [node_set_of_ne hmade] at hfile
      exact (h.file other bytes hfile).imp_right (extends_set hnone).keepsDirectories.locate

section

variable (hdot : hidden ≠ ".") (hdots : hidden ≠ "..")

include hdot hdots

/-- The temporary file is made, or there is more in it. -/
theorem write {bytes : ByteArray} (h : Stages dir hidden bound fs fs₁)
    (hlocate : fs₁.locate (dir ++ [hidden]) = .ok place)
    (hnode : fs₁.node place ≠ some .directory) :
    Stages dir hidden bound fs (fs₁.set place (.file bytes)) := by
  have hplace := mem_of_locate hdot hdots hlocate
  have hkeeps : fs₁.KeepsDirectories (fs₁.set place (.file bytes)) := keepsDirectories_set hnode
  have hlocate' := hkeeps.locate hlocate
  refine ⟨fun other hother => ?_, fun other content hfile => ?_⟩
  · have hne : other ≠ place := by
      rintro rfl
      exact hother hplace
    rw [node_set_of_ne hne]
    exact h.makes other hother
  · by_cases hother : other = place
    · exact .inr (hother ▸ hlocate')
    · rw [node_set_of_ne hother] at hfile
      refine (h.file other content hfile).imp_right fun hlocate'' => ?_
      cases hlocate.symm.trans hlocate''
      exact hlocate'

theorem createFile (h : Stages dir hidden bound fs fs₁)
    (hrun : fs₁.createFile (dir ++ [hidden]) = .ok fs₂) : Stages dir hidden bound fs fs₂ := by
  obtain ⟨place, hlocate, hnone, rfl⟩ := createFile_eq_ok.1 hrun
  exact h.write hdot hdots hlocate (by simp [hnone])

theorem append {bytes : ByteArray} (h : Stages dir hidden bound fs fs₁)
    (hrun : fs₁.append (dir ++ [hidden]) bytes = .ok fs₂) : Stages dir hidden bound fs fs₂ := by
  obtain ⟨place, content, hlocate, hfile, rfl⟩ := append_eq_ok.1 hrun
  exact h.write hdot hdots hlocate (by simp [hfile])

/-- Deleting the temporary file leaves the directories made for it. -/
theorem unlink (h : Stages dir hidden bound fs fs₁) :
    MakesDirectories hidden bound fs (fs₁.unlink (dir ++ [hidden])) := by
  intro other hother
  rw [node_unlink_of_ne fun hlocate => hother (mem_of_locate hdot hdots hlocate)]
  exact h.makes other hother

/-- The files are those that were there before it was made. -/
theorem unlink_files (hfresh : ∀ {place}, hidden ∈ place → fs.node place = none)
    (h : Stages dir hidden bound fs fs₁) (bytes : ByteArray) :
    (fs₁.unlink (dir ++ [hidden])).node place = some (.file bytes) ↔
      fs.node place = some (.file bytes) := by
  constructor
  · intro hfile
    have hlocate : fs₁.locate (dir ++ [hidden]) ≠ .ok place :=
      fun hlocate => node_unlink_ne_file hlocate hfile
    rw [node_unlink_of_ne hlocate] at hfile
    exact (h.file place bytes hfile).resolve_right hlocate
  · intro hfile
    have hother : hidden ∉ place := fun hmem => by
      cases (hfresh hmem).symm.trans hfile
    rcases h.unlink hdot hdots place hother with hsame | ⟨hnone, -⟩
    · rw [hsame, hfile]
    · cases hnone.symm.trans hfile

end

end Stages

end CatalogSync.FileSystem
