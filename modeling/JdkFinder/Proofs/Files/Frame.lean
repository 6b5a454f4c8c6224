import JdkFinder.Proofs.Files.Folder

/-!
# What changes leave alone

Making directories, and writing or removing a file, leave every file alone but the one that their
path leads to (`Spares`, `nodeAt?_removeFile`).  Without links this is the file of its last name
(`HasNoLinks.getLast?_of_canonicalize?`).
-/

namespace JdkFinder.FileSystem

/-! ## §1 Files that are spared -/

/-- A file stays where it is, and the paths to it still lead to it. -/
structure Spares (place : Location) (fs fs' : FileSystem) : Prop where
  file : ∀ file, fs.nodeAt? place = some (.file file) → fs'.nodeAt? place = some (.file file)
  path : ∀ path, fs.canonicalize? path = some place → fs'.canonicalize? path = some place

variable {fs fs' fs'' : FileSystem} {directory name path text : String} {here place : Location}
  {file : RegularFile}

theorem Spares.refl (place : Location) (fs : FileSystem) : Spares place fs fs :=
  ⟨fun _ h => h, fun _ h => h⟩

theorem Spares.trans (h : Spares place fs fs') (h' : Spares place fs' fs'') :
    Spares place fs fs'' :=
  ⟨fun file hfile => h'.file file (h.file file hfile),
    fun path hpath => h'.path path (h.path path hpath)⟩

/-- What is read at a path is what stands where it leads. -/
theorem readBytes_eq_of_place (hpath : fs.canonicalize? path = some place)
    (hpath' : fs'.canonicalize? path = some place)
    (hnode : fs'.nodeAt? place = fs.nodeAt? place) : fs'.readBytes path = fs.readBytes path := by
  rw [readBytes, readBytes, locate_of_canonicalize? hpath, locate_of_canonicalize? hpath']
  simp only [bind, Except.bind, hnode]

/-- What is found stays where it is when directories are made. -/
theorem DirectoriesAdded.canonicalize?_of_before (h : DirectoriesAdded fs fs')
    (hpath : fs.canonicalize? path = some here) : fs'.canonicalize? path = some here := by
  have hkept {other : Location} {node : Node} (hnode : fs.nodeAt? other = some node) :
      fs'.nodeAt? other = some node := by
    -- What was there is still there: only missing places were filled.
    rcases h.node other with hsame | ⟨hnone, -⟩
    · rw [hsame, hnode]
    · rw [hnode] at hnone
      cases hnone
  obtain ⟨pieces, hpieces, hleads⟩ := canonicalize?_eq_some_iff.mp hpath
  have hstart : fs'.startOf path = fs.startOf path := by
    rw [startOf, startOf, h.workingDirectory]
  refine canonicalize?_eq_some_iff.mpr ⟨pieces, hpieces, ?_⟩
  rw [hstart]
  refine hleads.transfer (fun _ _ hnode _ => hkept hnode) ?_
  rintro (⟨file, hfile⟩ | hcreate)
  · exact ⟨file, hkept hfile⟩
  · cases hcreate

/-- Directories that are made leave every file alone. -/
theorem DirectoriesAdded.spares (h : DirectoriesAdded fs fs') (place : Location) :
    Spares place fs fs' where
  file file hfile := by
    rcases h.node place with hsame | ⟨hnone, -⟩
    · rw [hsame, hfile]
    · rw [hfile] at hnone
      cases hnone
  path _ := h.canonicalize?_of_before

/-- A file that is written leaves every other one alone. -/
theorem FileWritten.spares (h : FileWritten here fs fs') (hother : here ≠ place) :
    Spares place fs fs' where
  file file hfile := by rw [h.elsewhere place (Ne.symm hother), hfile]
  path _ := h.canonicalize?_of_before

/-! ## §2 Writing -/

/-- A file that would be written at the end of a path is found there if it exists. -/
theorem canonicalize?_of_locateNew (hlocate : fs.locateNew path = .ok here)
    (hfile : fs.nodeAt? here = some (.file file)) : fs.canonicalize? path = some here := by
  obtain ⟨pieces, hpieces, hleads⟩ := locateNew_eq_ok_iff.mp hlocate
  exact canonicalize?_eq_some_iff.mpr
    ⟨pieces, hpieces, hleads.transfer (fun _ _ hnode _ => hnode) fun _ => ⟨file, hfile⟩⟩

/-- An attempt to write a text spares every file that its path does not lead to. -/
theorem IsTree.writeText_spares (hs : fs.IsTree) (text : String)
    (hfile : fs.nodeAt? place = some (.file file)) (hother : fs.canonicalize? path ≠ some place) :
    Spares place fs ((writeText path text).run fs).2 := by
  rcases hwrite : (writeText path text).run fs with ⟨e | _, fs'⟩
  · obtain ⟨rfl, -⟩ := writeBytes_eq_error hwrite
    exact .refl place fs'
  · obtain ⟨here, executable, hlocate, hdirectory, rfl⟩ := writeBytes_eq_ok hwrite
    -- What is overwritten is a file: a directory refuses the write, and a link is followed.
    have hbefore : ∀ node, fs.nodeAt? here = some node → ∃ file, node = .file file := by
      intro node hnode
      obtain ⟨pieces, -, hleads⟩ := locateNew_eq_ok_iff.mp hlocate
      cases node with
      | file file => exact ⟨file, rfl⟩
      | directory => exact absurd hnode hdirectory
      | link target => exact absurd hnode (hleads.not_link hs (hs.startOf path))
    refine (fileWritten_place (ne_nil_of_not_directory hdirectory) hbefore _).spares ?_
    rintro rfl
    exact hother (canonicalize?_of_locateNew hlocate hfile)

/-! ## §3 Removing -/

/-- An entry of a directory is removed. -/
structure Removes (directory name : String) (here : Location) (fs fs' : FileSystem) : Prop where
  opens : fs.Opens directory here
  isName : IsName name
  walkable : ∃ pieces, FileSystem.walkable (Path.join directory name) = .ok pieces
  node : ∃ node, fs.nodeAt? (here ++ [name]) = some node ∧ node ≠ .directory
  cleared : fs' = fs.clear (here ++ [name])

/-- The entry that a path into a directory names stands in the directory. -/
theorem exists_opens_of_locateEntry {entry : Location} (hs : fs.IsTree) (hname : IsComponent name)
    (h : fs.locateEntry (Path.join directory name) = .ok (some entry)) :
    ∃ here pieces, fs.Opens directory here ∧ IsName name ∧
      walkable (Path.join directory name) = .ok pieces ∧ entry = here ++ [name] := by
  cases hwalkable : walkable (Path.join directory name) with
  | error e =>
    rw [locateEntry, hwalkable] at h
    cases h
  | ok pieces =>
    obtain ⟨-, -, -, rfl⟩ := walkable_eq_ok_iff.mp hwalkable
    have hlast := dropWhile_pieces directory hname.notIdle
    rw [locateEntry, hwalkable] at h
    simp only [bind, Except.bind, pieces_join directory hname.slash, hlast, List.reverse_reverse,
      startOf_join_eq fs directory hname.slash] at h
    split at h
    · cases h
    rename_i between hfolder
    split at h
    · cases h
    split at h
    · cases h
    rename_i hpoints hshort
    cases h
    -- The empty piece at the end makes sure that the names above lead to a directory.
    obtain ⟨links, here, hfront, hhere, hend⟩ :=
      (leads_of_walk hfolder).split hs (hs.startOf directory) rfl (by simp)
    have hsame : between = here := by
      cases hend.of_idle isIdle_empty
      rfl
    subst hsame
    refine ⟨between, _, ⟨?_, hfront, hhere⟩, ⟨hname.notIdle, hname.notUp, hshort⟩, rfl, rfl⟩
    by_cases hdirectory : directory = ""
    · exact .inl hdirectory
    · exact .inr ⟨_, (walkable_of_join hdirectory hname.slash hwalkable).1⟩

/-- An attempt to remove an entry removes it or changes nothing. -/
theorem removeFile_cases (directory : String) (hs : fs.IsTree) (hname : IsComponent name) :
    ((removeFile (Path.join directory name)).run fs).2 = fs ∨
      ∃ here, Removes directory name here fs
        ((removeFile (Path.join directory name)).run fs).2 := by
  unfold removeFile
  rw [run_get_bind, run_liftM_bind]
  -- A missing entry and a directory leave the tree as it is; what is removed is a file or a link.
  split
  · rename_i entry hentry
    split
    · exact .inl rfl
    · rename_i place
      obtain ⟨here, pieces, hopens, hshort, hwalkable, rfl⟩ :=
        exists_opens_of_locateEntry hs hname hentry
      split
      · exact .inl rfl
      · exact .inl rfl
      · rename_i node hdirectory hnode
        refine .inr ⟨here, hopens, hshort, ⟨pieces, hwalkable⟩, ⟨node, hnode, ?_⟩, rfl⟩
        rintro rfl
        exact hdirectory rfl
  · exact .inl rfl

/-- Removing an entry leaves every file alone that its path does not lead to. -/
theorem nodeAt?_removeFile (hs : fs.IsTree) (hname : IsComponent name)
    (hfile : fs.nodeAt? place = some (.file file))
    (hother : fs.canonicalize? (Path.join directory name) ≠ some place) :
    ((removeFile (Path.join directory name)).run fs).2.nodeAt? place = some (.file file) := by
  rcases removeFile_cases directory hs hname with hsame | ⟨here, hremoves⟩
  · rw [hsame, hfile]
  · rw [hremoves.cleared, nodeAt?_clear _ (by simp), if_neg, hfile]
    rintro rfl
    obtain ⟨pieces, hwalkable⟩ := hremoves.walkable
    have hlocate := hremoves.opens.locate_file hname.slash hremoves.isName hwalkable hfile
    exact hother (by rw [canonicalize?, hlocate]; rfl)

/-- Where an entry has been removed there is nothing more to remove. -/
theorem removeFile_again (hs : fs.IsTree) (hname : IsComponent name) :
    ((removeFile (Path.join directory name)).run
      ((removeFile (Path.join directory name)).run fs).2).2 =
        ((removeFile (Path.join directory name)).run fs).2 := by
  rcases removeFile_cases directory hs hname with hsame | ⟨here, hremoves⟩
  · rw [hsame, hsame]
  have hs' := hs.removeFile (Path.join directory name)
  rcases removeFile_cases directory hs' hname with hsame | ⟨there, hagain⟩
  · exact hsame
  -- The directory is where it was, and the entry is gone.
  have hkept {other : Location} {node : Node}
      (hnode : ((removeFile (Path.join directory name)).run fs).2.nodeAt? other = some node) :
      other ≠ here ++ [name] ∧ fs.nodeAt? other = some node := by
    rw [hremoves.cleared, nodeAt?_clear _ (by simp)] at hnode
    split at hnode
    · cases hnode
    · rename_i hne
      exact ⟨hne, hnode⟩
  have hworking : fs.workingDirectory =
      ((removeFile (Path.join directory name)).run fs).2.workingDirectory := by
    rw [hremoves.cleared]
    rfl
  have hopens : fs.Opens directory there :=
    hagain.opens.transfer hworking fun _ _ hnode _ => (hkept hnode).2
  obtain ⟨node, hnode, -⟩ := hagain.node
  exact absurd (by rw [hopens.unique hremoves.opens]) (hkept hnode).1

/-! ## §4 Files without links -/

/-- No link stands anywhere. -/
def HasNoLinks (fs : FileSystem) : Prop :=
  ∀ place target, fs.nodeAt? place ≠ some (.link target)

namespace HasNoLinks

theorem of_entries (h : ∀ entry ∈ fs.entries, ∀ target, entry.2 ≠ .link target) :
    fs.HasNoLinks := by
  intro place target hlink
  have hplace : place ≠ [] := by
    rintro rfl
    cases hlink
  exact h _ (mem_entries_of_nodeAt? hplace hlink) target rfl

theorem placed (h : fs.HasNoLinks) {node : Node} (hplace : place ≠ [])
    (hnode : ∀ target, node ≠ .link target) : (fs.place place node).HasNoLinks := by
  intro here target
  rw [nodeAt?_place _ hplace]
  split
  · rw [Ne, Option.some.injEq]
    exact hnode target
  · exact h here target

theorem of_added (h : fs.HasNoLinks) (hadded : DirectoriesAdded fs fs') : fs'.HasNoLinks := by
  intro here target
  rcases hadded.node here with hsame | ⟨-, hdirectory⟩
  · rw [hsame]
    exact h here target
  · rw [hdirectory]
    simp

theorem removeFile (h : fs.HasNoLinks) (hs : fs.IsTree) (hname : IsComponent name) :
    ((removeFile (Path.join directory name)).run fs).2.HasNoLinks := by
  rcases removeFile_cases directory hs hname with hsame | ⟨here, hremoves⟩
  · rwa [hsame]
  · intro place target
    rw [hremoves.cleared, nodeAt?_clear _ (by simp)]
    split
    · simp
    · exact h place target

/-- Without links a path ends at its last name. -/
theorem getLast?_of_canonicalize? (h : fs.HasNoLinks) (hs : fs.IsTree) (hname : IsComponent name)
    (hpath : fs.canonicalize? (Path.join directory name) = some here) :
    here.getLast? = some name := by
  obtain ⟨pieces, hwalkable, hleads⟩ := canonicalize?_eq_some_iff.mp hpath
  obtain ⟨above, links, -, hlast⟩ := exists_opens hs hname.slash hwalkable hleads
  obtain ⟨-, ⟨rfl, -⟩ | ⟨-, hcreate⟩ | ⟨target, hlink⟩⟩ :=
    hlast.of_single hname.notIdle hname.notUp
  · exact List.getLast?_concat
  · cases hcreate
  · exact absurd hlink (h _ target)

/-- Where a path leads nowhere there is nothing to remove. -/
theorem removeFile_of_missing (h : fs.HasNoLinks) (hs : fs.IsTree) (hname : IsComponent name)
    (hnone : fs.canonicalize? (Path.join directory name) = none) :
    ((FileSystem.removeFile (Path.join directory name)).run fs).2 = fs := by
  rcases removeFile_cases directory hs hname with hsame | ⟨here, hremoves⟩
  · exact hsame
  obtain ⟨pieces, hwalkable⟩ := hremoves.walkable
  obtain ⟨node, hnode, hdirectory⟩ := hremoves.node
  -- What is removed is no directory, and there are no links; a file would have been found.
  cases node with
  | directory => exact absurd rfl hdirectory
  | link target => exact absurd hnode (h _ target)
  | file file =>
    have hlocate := hremoves.opens.locate_file hname.slash hremoves.isName hwalkable hnode
    rw [canonicalize?, hlocate] at hnone
    cases hnone

end HasNoLinks

end JdkFinder.FileSystem
