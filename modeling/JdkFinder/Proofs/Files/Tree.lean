import JdkFinder.Proofs.Files.Changes

/-!
# File systems are trees

Whatever stands somewhere stands in a directory, and so does the program (`IsTree`).  The operations
on files keep it so.

In a tree a walk that goes on has come to a directory (`Leads.split`).  Hence nothing is found in a
directory that could not be made (`canonicalize?_join_of_error`).
-/

namespace JdkFinder.FileSystem

/-! ## §1 Trees -/

/-- A file system as a machine has it: everything stands in a directory, and the working directory
is one. -/
structure IsTree (fs : FileSystem) : Prop where
  workingDirectory : fs.nodeAt? fs.workingDirectory = some .directory
  parent : ∀ place node, fs.nodeAt? place = some node →
    fs.nodeAt? place.dropLast = some .directory

namespace IsTree

variable {fs : FileSystem} {here : Location}

theorem startOf (h : fs.IsTree) (path : String) :
    fs.nodeAt? (fs.startOf path) = some .directory := by
  unfold FileSystem.startOf
  split
  · rfl
  · exact h.workingDirectory

/-- Something new in a directory leaves a tree, as long as no directory gives way to it. -/
theorem place (h : fs.IsTree) (hhere : here ≠ [])
    (hparent : fs.nodeAt? here.dropLast = some .directory)
    (hbefore : fs.nodeAt? here ≠ some .directory) (node : Node) : (fs.place here node).IsTree := by
  -- A directory stays one: the place that is written held none.
  have hdirectory {place : Location} (hplace : fs.nodeAt? place = some .directory) :
      (fs.place here node).nodeAt? place = some .directory := by
    rw [nodeAt?_place _ hhere, if_neg, hplace]
    rintro rfl
    exact hbefore hplace
  constructor
  · rw [workingDirectory_place]
    exact hdirectory h.workingDirectory
  · intro place other hother
    apply hdirectory
    rw [nodeAt?_place _ hhere] at hother
    split at hother
    · rename_i heq
      rw [heq]
      exact hparent
    · exact h.parent place other hother

end IsTree

/-- What stands at a place is an entry, unless it is the root. -/
theorem mem_entries_of_nodeAt? {fs : FileSystem} {place : Location} {node : Node}
    (hplace : place ≠ []) (hnode : fs.nodeAt? place = some node) : (place, node) ∈ fs.entries := by
  rw [nodeAt?, if_neg (by simpa using hplace)] at hnode
  obtain ⟨before, after, hentries, -⟩ := List.lookup_eq_some_iff.mp hnode
  rw [hentries]
  simp

/-- A machine is a tree if all its entries stand in directories. -/
theorem IsTree.of_entries {fs : FileSystem}
    (hworking : fs.nodeAt? fs.workingDirectory = some .directory)
    (hparent : ∀ entry ∈ fs.entries, fs.nodeAt? entry.1.dropLast = some .directory) :
    fs.IsTree where
  workingDirectory := hworking
  parent place node hnode := by
    by_cases hplace : place = []
    · rw [hplace]
      rfl
    · exact hparent _ (mem_entries_of_nodeAt? hplace hnode)

/-- A machine with nothing but the root. -/
theorem isTree_root : IsTree ⟨[], []⟩ where
  workingDirectory := rfl
  parent place node hnode := by
    cases place with
    | nil => rfl
    | cons name rest => cases hnode

/-- A tree without something that is no directory is a tree. -/
theorem IsTree.clear {fs : FileSystem} {here : Location} (h : fs.IsTree)
    (hbefore : fs.nodeAt? here ≠ some .directory) : (fs.clear here).IsTree := by
  have hhere : here ≠ [] := ne_nil_of_not_directory hbefore
  -- A directory stays one, since none is removed.
  have hdirectory {place : Location} (hplace : fs.nodeAt? place = some .directory) :
      (fs.clear here).nodeAt? place = some .directory := by
    rw [nodeAt?_clear _ hhere, if_neg, hplace]
    rintro rfl
    exact hbefore hplace
  constructor
  · exact hdirectory h.workingDirectory
  · intro place other hother
    apply hdirectory
    rw [nodeAt?_clear _ hhere] at hother
    split at hother
    · cases hother
    · exact h.parent place other hother

/-! ## §2 Walks in a tree -/

section Walks

variable {fs : FileSystem} {create : Bool} {links : Nat} {start here : Location}
  {todo : List String}

/-- The walk along a link starts in a directory. -/
theorem directory_of_target {target : String} (hstart : fs.nodeAt? start = some .directory) :
    fs.nodeAt? (if Path.isAbsolute target then [] else start) = some .directory := by
  split
  · rfl
  · exact hstart

/-- A walk that goes on has come to a directory. -/
theorem Leads.split {front back : List String} (h : Leads fs create links start todo here)
    (hs : fs.IsTree) (hstart : fs.nodeAt? start = some .directory) (htodo : todo = front ++ back)
    (hback : back ≠ []) :
    ∃ links' between, Leads fs create links start front between ∧
      fs.nodeAt? between = some .directory ∧ Leads fs create links' between back here := by
  -- Either nothing of the front is left, or the step of the walk is one along the front.
  induction h generalizing front with
  | done => exact absurd (List.append_eq_nil_iff.mp htodo.symm).2 hback
  | idle hidle next ih =>
    rcases List.cons_eq_append_iff.mp htodo with ⟨rfl, rfl⟩ | ⟨front, rfl, hrest⟩
    · exact ⟨_, _, .done, hstart, .idle hidle next⟩
    · obtain ⟨links', between, hfront, hbetween, hnext⟩ := ih hstart hrest
      exact ⟨links', between, .idle hidle hfront, hbetween, hnext⟩
  | up next ih =>
    rcases List.cons_eq_append_iff.mp htodo with ⟨rfl, rfl⟩ | ⟨front, rfl, hrest⟩
    · exact ⟨_, _, .done, hstart, .up next⟩
    · obtain ⟨links', between, hfront, hbetween, hnext⟩ := ih (hs.parent _ _ hstart) hrest
      exact ⟨links', between, .up hfront, hbetween, hnext⟩
  | @new links _ _ hname hcreate hnone =>
    rcases List.cons_eq_append_iff.mp htodo with ⟨rfl, rfl⟩ | ⟨front, rfl, hrest⟩
    · exact ⟨links, _, .done, hstart, .new hname hcreate hnone⟩
    · exact absurd (List.append_eq_nil_iff.mp hrest.symm).2 hback
  | @file links _ _ _ hname hfile =>
    rcases List.cons_eq_append_iff.mp htodo with ⟨rfl, rfl⟩ | ⟨front, rfl, hrest⟩
    · exact ⟨links, _, .done, hstart, .file hname hfile⟩
    · -- Nothing follows a file.
      exact absurd (List.append_eq_nil_iff.mp hrest.symm).2 hback
  | directory hname hdirectory next ih =>
    rcases List.cons_eq_append_iff.mp htodo with ⟨rfl, rfl⟩ | ⟨front, rfl, hrest⟩
    · exact ⟨_, _, .done, hstart, .directory hname hdirectory next⟩
    · obtain ⟨links', between, hfront, hbetween, hnext⟩ := ih hdirectory hrest
      exact ⟨links', between, .directory hname hdirectory hfront, hbetween, hnext⟩
  | link hname hlink next ih =>
    rcases List.cons_eq_append_iff.mp htodo with ⟨rfl, rfl⟩ | ⟨front, rfl, hrest⟩
    · exact ⟨_, _, .done, hstart, .link hname hlink next⟩
    · obtain ⟨links', between, hfront, hbetween, hnext⟩ :=
        ih (directory_of_target hstart) (by rw [hrest, List.append_assoc])
      exact ⟨links', between, .link hname hlink hfront, hbetween, hnext⟩

/-- Behind an empty piece stands a directory. -/
theorem Leads.directory_of_append {above : List String}
    (h : Leads fs create links start (above ++ [""]) here) (hs : fs.IsTree)
    (hstart : fs.nodeAt? start = some .directory) : fs.nodeAt? here = some .directory := by
  obtain ⟨links', between, -, hbetween, hlast⟩ := h.split hs hstart rfl (by simp)
  cases hlast.of_idle isIdle_empty
  exact hbetween

/-- A file that is found or has to be made stands in a directory. -/
theorem Leads.parent (h : Leads fs create links start todo here) (hs : fs.IsTree)
    (hstart : fs.nodeAt? start = some .directory) :
    fs.nodeAt? here.dropLast = some .directory := by
  induction h with
  | done => exact hs.parent _ _ hstart
  | idle _ _ ih => exact ih hstart
  | up _ ih => exact ih (hs.parent _ _ hstart)
  | new =>
    rw [List.dropLast_concat]
    exact hstart
  | file _ hfile => exact hs.parent _ _ hfile
  | directory _ hdirectory _ ih => exact ih hdirectory
  | link _ _ _ ih => exact ih (directory_of_target hstart)

/-- A walk along all links does not end at one. -/
theorem Leads.not_link {target : String} (h : Leads fs create links start todo here)
    (hs : fs.IsTree) (hstart : fs.nodeAt? start = some .directory) :
    fs.nodeAt? here ≠ some (.link target) := by
  -- A link is always followed, so no step of the way ends at one.
  induction h with
  | done =>
    rw [hstart]
    simp
  | idle _ _ ih => exact ih hstart
  | up _ ih => exact ih (hs.parent _ _ hstart)
  | new _ _ hnone =>
    rw [hnone]
    simp
  | file _ hfile =>
    rw [hfile]
    simp
  | directory _ hdirectory _ ih => exact ih hdirectory
  | link _ _ _ ih => exact ih (directory_of_target hstart)

/-- Idle pieces may be left out. -/
theorem Leads.filter {front back : List String} (h : Leads fs create links start todo here)
    (htodo : todo = front ++ back) :
    Leads fs create links start (front ++ back.filter fun name => !Path.isIdle name) here := by
  -- A name that is no idle step is kept by the filter.
  have hkeep {name : String} {back : List String} (hname : Path.isIdle name = false) :
      (name :: back).filter (fun name => !Path.isIdle name) =
        name :: back.filter fun name => !Path.isIdle name :=
    List.filter_cons_of_pos (by rw [hname]; rfl)
  -- The split of what is to do into a front and a back moves with the way: each step takes the
  -- first name from the front, or from the back once the front is empty.
  induction h generalizing front back with
  | done =>
    obtain ⟨rfl, rfl⟩ := List.append_eq_nil_iff.mp htodo.symm
    exact .done
  | idle hidle next ih =>
    rcases List.cons_eq_append_iff.mp htodo with ⟨rfl, rfl⟩ | ⟨front, rfl, hrest⟩
    · rw [List.filter_cons_of_neg (by rw [hidle]; decide)]
      exact ih (List.nil_append _).symm
    · exact .idle hidle (ih hrest)
  | up next ih =>
    rcases List.cons_eq_append_iff.mp htodo with ⟨rfl, rfl⟩ | ⟨front, rfl, hrest⟩
    · rw [hkeep isIdle_up]
      exact .up (ih (List.nil_append _).symm)
    · exact .up (ih hrest)
  | new hname hcreate hnone =>
    rcases List.cons_eq_append_iff.mp htodo with ⟨rfl, rfl⟩ | ⟨front, rfl, hrest⟩
    · rw [hkeep hname.notIdle]
      exact .new hname hcreate hnone
    · obtain ⟨rfl, rfl⟩ := List.append_eq_nil_iff.mp hrest.symm
      exact .new hname hcreate hnone
  | file hname hfile =>
    rcases List.cons_eq_append_iff.mp htodo with ⟨rfl, rfl⟩ | ⟨front, rfl, hrest⟩
    · rw [hkeep hname.notIdle]
      exact .file hname hfile
    · obtain ⟨rfl, rfl⟩ := List.append_eq_nil_iff.mp hrest.symm
      exact .file hname hfile
  | directory hname hdirectory next ih =>
    rcases List.cons_eq_append_iff.mp htodo with ⟨rfl, rfl⟩ | ⟨front, rfl, hrest⟩
    · rw [hkeep hname.notIdle]
      exact .directory hname hdirectory (ih (List.nil_append _).symm)
    · exact .directory hname hdirectory (ih hrest)
  | @link _ _ _ _ target _ hname hlink next ih =>
    -- The pieces of the target are put before the rest and are not filtered, so they join the
    -- front.
    rcases List.cons_eq_append_iff.mp htodo with ⟨rfl, rfl⟩ | ⟨front, rfl, hrest⟩
    · rw [hkeep hname.notIdle]
      exact .link hname hlink (ih rfl)
    · have hnext := ih (show _ = Path.pieces target ++ front ++ back by
        rw [hrest, List.append_assoc])
      rw [List.append_assoc] at hnext
      exact .link hname hlink hnext

end Walks

/-! ## §3 Operations on trees -/

section Operations

variable {fs : FileSystem}

theorem IsTree.writeBytes (h : fs.IsTree) (path : String) (content : ByteArray) :
    ((FileSystem.writeBytes path content).run fs).2.IsTree := by
  rcases hrun : (FileSystem.writeBytes path content).run fs with ⟨e | _, fs'⟩
  · rw [(writeBytes_eq_error hrun).1]
    exact h
  · obtain ⟨here, executable, hlocate, hdirectory, rfl⟩ := writeBytes_eq_ok hrun
    have hroot : here ≠ [] := ne_nil_of_not_directory hdirectory
    obtain ⟨pieces, -, hleads⟩ := locateNew_eq_ok_iff.mp hlocate
    exact h.place hroot (hleads.parent h (h.startOf path)) hdirectory _

/-- A text that has been written can be read. -/
theorem IsTree.readText_of_writeText {path text : String} {fs' : FileSystem} (h : fs.IsTree)
    (hwrite : (writeText path text).run fs = (.ok (), fs')) : fs'.readText path = .ok text := by
  obtain ⟨here, executable, hlocate, hdirectory, rfl⟩ := writeBytes_eq_ok hwrite
  have hroot : here ≠ [] := ne_nil_of_not_directory hdirectory
  have hbefore : ∀ node, fs.nodeAt? here = some node → ∃ file, node = .file file := by
    intro node hnode
    obtain ⟨pieces, -, hleads⟩ := locateNew_eq_ok_iff.mp hlocate
    cases node with
    | file file => exact ⟨file, rfl⟩
    | directory => exact absurd hnode hdirectory
    | link target => exact absurd hnode (hleads.not_link h (h.startOf path))
  exact readText_place hroot hbefore hlocate

theorem IsTree.removeFile (h : fs.IsTree) (path : String) :
    ((FileSystem.removeFile path).run fs).2.IsTree := by
  rcases removeFile_run path fs with hsame | ⟨here, -, hdirectory, hclear⟩
  · rw [hsame]
    exact h
  · rw [hclear]
    exact h.clear hdirectory

/-- A tree stays one, and a directory in it stays there. -/
def StaysTree (place : Location) (fs fs' : FileSystem) : Prop :=
  fs.IsTree ∧ fs.nodeAt? place = some .directory →
    fs'.IsTree ∧ fs'.nodeAt? place = some .directory

instance (place : Location) : IsPreorder FileSystem (StaysTree place) where
  refl _ h := h
  trans _ _ _ h h' hs := h' (h hs)

theorem allowsDirectories_staysTree (start : Location) :
    AllowsDirectories (StaysTree start) start := by
  rintro fs above name directory hwalk hnone ⟨hs, hstart⟩
  have hdirectory : fs.nodeAt? directory = some .directory :=
    (leads_of_walk hwalk).directory_of_append hs hstart
  have hbefore : fs.nodeAt? (directory ++ [name]) ≠ some .directory := by
    rw [hnone]
    simp
  refine ⟨hs.place (by simp) (by rw [List.dropLast_concat]; exact hdirectory) hbefore _, ?_⟩
  rw [nodeAt?_place _ (by simp)]
  split
  · rfl
  · exact hstart

theorem IsTree.makeDirectories (h : fs.IsTree) (path : String) :
    ((FileSystem.makeDirectories path).run fs).2.IsTree :=
  (makeDirectories_respects (allowsDirectories_staysTree _) ⟨h, h.startOf path⟩).1

end Operations

/-! ## §4 Directories that cannot be made -/

section Failures

variable {fs fs' : FileSystem} {start : Location} {names : List String} {e : IoError}

theorem leadsToDirectory_iff :
    fs.leadsToDirectory start names = true ↔
      ∃ here, Leads fs false maxLinks start names here ∧ fs.nodeAt? here = some .directory := by
  unfold leadsToDirectory
  -- The walk is a function, so any other way leads to the same place.
  cases hwalk : fs.walk false maxLinks start names with
  | error e =>
    refine ⟨fun h => absurd h Bool.false_ne_true, ?_⟩
    rintro ⟨here, hleads, -⟩
    rw [walk_of_leads hleads] at hwalk
    cases hwalk
  | ok place =>
    refine ⟨fun h => ⟨place, leads_of_walk hwalk, beq_iff_eq.mp h⟩, ?_⟩
    rintro ⟨here, hleads, hhere⟩
    rw [walk_of_leads hleads] at hwalk
    cases hwalk
    exact beq_iff_eq.mpr hhere

/-- What is found in a place of a tree shows that the place is a directory. -/
theorem leadsToDirectory_of_append {here : Location} {back : List String} (hs : fs.IsTree)
    (hstart : fs.nodeAt? start = some .directory)
    (h : Leads fs false maxLinks start (names ++ back) here) (hback : back ≠ []) :
    fs.leadsToDirectory start names = true := by
  obtain ⟨links, between, hfront, hbetween, -⟩ := h.split hs hstart rfl hback
  exact leadsToDirectory_iff.mpr ⟨between, hfront, hbetween⟩

theorem unlessDirectory_eq_error {e' : IoError}
    (h : (unlessDirectory start names e).run fs = (.error e', fs')) :
    fs' = fs ∧ fs.leadsToDirectory start names = false := by
  unfold unlessDirectory at h
  rw [run_get_bind] at h
  split at h
  · cases h
  · rename_i hdirectory
    cases h
    exact ⟨rfl, Bool.eq_false_iff.mpr hdirectory⟩

/-- A failure that is not forgiven shows that no directory is there. -/
theorem leadsToDirectory_of_unforgiven {operation : FileAction Unit}
    (h : (tryCatch operation (unlessDirectory start names)).run fs = (.error e, fs')) :
    fs'.leadsToDirectory start names = false := by
  rw [run_tryCatch] at h
  rcases hrun : operation.run fs with ⟨e' | _, between⟩
  · rw [hrun] at h
    obtain ⟨rfl, hnone⟩ := unlessDirectory_eq_error h
    exact hnone
  · rw [hrun] at h
    cases h

/-- Names that could not be made into directories do not lead to one. -/
theorem leadsToDirectory_of_error (hs : fs.IsTree) (hstart : fs.nodeAt? start = some .directory)
    (h : (makeDirectoriesIn start names).run fs = (.error e, fs')) :
    fs'.leadsToDirectory start names.reverse = false := by
  -- The names are given last first, as the directories are tried from the innermost one outwards.
  induction names generalizing fs e with
  | nil => cases h
  | cons name above ih =>
    have hstays := makeDirectoriesIn_respects (allowsDirectories_staysTree start) (name :: above) fs
      ⟨hs, hstart⟩
    rw [h] at hstays
    unfold makeDirectoriesIn at h
    have hfirst := makeDirectoryIn_respects (allowsDirectories_staysTree start) above.reverse name
      fs ⟨hs, hstart⟩
    rw [run_tryCatch] at h
    rcases hrun : (makeDirectoryIn start above.reverse name).run fs with ⟨e₁ | _, fs₁⟩
    · rw [hrun] at h hfirst
      dsimp only at h
      split at h
      · rw [run_bind] at h
        rcases habove : (makeDirectoriesIn start above).run fs₁ with ⟨e₂ | _, fs₂⟩
        · -- What stands above is no directory, so nothing is found in it.
          rw [habove] at h
          cases h
          have hnone := ih hfirst.1 hfirst.2 habove
          rw [Bool.eq_false_iff, List.reverse_cons]
          intro hfound
          obtain ⟨here, hleads, -⟩ := leadsToDirectory_iff.mp hfound
          rw [leadsToDirectory_of_append hstays.1 hstays.2 hleads (by simp)] at hnone
          cases hnone
        · rw [habove] at h
          exact leadsToDirectory_of_unforgiven h
      · obtain ⟨rfl, hnone⟩ := unlessDirectory_eq_error h
        exact hnone
    · rw [hrun] at h
      cases h

end Failures

/-! ## §5 Paths into a directory -/

section Inside

variable {fs fs' : FileSystem} {directory name path : String} {pieces : List String}

theorem walkable_eq_ok_iff :
    walkable path = .ok pieces ↔ '\x00' ∉ path.toList ∧ path ≠ "" ∧
      path.utf8ByteSize ≤ maxPath ∧ pieces = Path.pieces path := by
  -- Each of the three tests for a refusal in turn.
  unfold walkable
  split
  · rename_i hnul
    simp [List.contains_iff_mem.mp hnul]
  split
  · rename_i hempty
    simp [String.isEmpty_iff.mp hempty]
  split
  · rename_i hlong
    simp [Nat.not_le.mpr hlong]
  · rename_i hnul hempty hlong
    rw [Except.ok.injEq, eq_comm]
    refine ⟨fun h => ⟨?_, ?_, Nat.not_lt.mp hlong, h⟩, fun h => h.2.2.2⟩
    · exact fun hmem => hnul (List.contains_iff_mem.mpr hmem)
    · exact fun hnil => hempty (String.isEmpty_iff.mpr hnil)

/-- A path into a directory ends with a slash and the name. -/
theorem exists_join (directory : String) (hdirectory : directory ≠ "") :
    ∃ front, (directory = front ∨ directory = front ++ "/") ∧
      ∀ name : String, '/' ∉ name.toList → Path.join directory name = front ++ "/" ++ name := by
  have hempty : directory.isEmpty = false := by
    rw [Bool.eq_false_iff]
    exact fun h => hdirectory (String.isEmpty_iff.mp h)
  have hrelative {name : String} (hslash : '/' ∉ name.toList) : Path.isAbsolute name = false := by
    rw [Path.isAbsolute, beq_eq_false_iff_ne]
    exact fun hhead => hslash (List.mem_of_mem_head? hhead)
  -- A separator at the end of the directory is not doubled.
  by_cases hend : directory.toList.getLast? = some '/'
  · obtain ⟨front, hfront⟩ := List.getLast?_eq_some_iff.mp hend
    have hjoined : directory = String.ofList front ++ "/" := by
      rw [← String.toList_inj, hfront]
      simp
    refine ⟨String.ofList front, .inr hjoined, fun name hslash => ?_⟩
    rw [Path.join, hrelative hslash, if_neg Bool.false_ne_true, hempty, Bool.false_or,
      if_pos (beq_iff_eq.mpr hend), ← hjoined]
  · refine ⟨directory, .inl rfl, fun name hslash => ?_⟩
    rw [Path.join, hrelative hslash, if_neg Bool.false_ne_true, hempty, Bool.false_or,
      if_neg (by simpa using hend)]

theorem pieces_append_slash (front rest : String) :
    Path.pieces (front ++ "/" ++ rest) = Path.pieces front ++ Path.pieces rest := by
  unfold Path.pieces
  rw [← List.map_append, ← List.splitOn_append_cons_self]
  simp

theorem pieces_eq_singleton (hslash : '/' ∉ name.toList) : Path.pieces name = [name] := by
  rw [Path.pieces, List.splitOn_eq_singleton hslash, List.map_singleton, String.ofList_toList]

/-- A path into a directory goes along the pieces of the directory, up to idle ones. -/
theorem exists_pieces_join (hdirectory : directory ≠ "") (hslash : '/' ∉ name.toList) :
    ∃ front, Path.pieces (Path.join directory name) = front ++ [name] ∧
      (front.filter fun piece => !Path.isIdle piece) =
        (Path.pieces directory).filter fun piece => !Path.isIdle piece := by
  obtain ⟨front, hfront, hjoin⟩ := exists_join directory hdirectory
  refine ⟨Path.pieces front, ?_, ?_⟩
  · rw [hjoin name hslash, pieces_append_slash, pieces_eq_singleton hslash]
  rcases hfront with rfl | rfl
  · rfl
  · -- The slash at the end adds an empty piece.
    have hempty : Path.pieces "" = [""] := rfl
    have hdirectory := pieces_append_slash front ""
    rw [String.append_empty, hempty] at hdirectory
    rw [hdirectory, List.filter_append]
    simp [isIdle_empty]

/-- A path into a directory starts with the path of the directory. -/
theorem exists_join_eq_append (hdirectory : directory ≠ "")
    (hslash : '/' ∉ name.toList) :
    ∃ rest, Path.join directory name = directory ++ rest := by
  obtain ⟨front, rfl | rfl, hjoin⟩ := exists_join directory hdirectory
  · exact ⟨"/" ++ name, by rw [hjoin name hslash, String.append_assoc]⟩
  · exact ⟨name, hjoin name hslash⟩

theorem isAbsolute_join (hdirectory : directory ≠ "") (hslash : '/' ∉ name.toList) :
    Path.isAbsolute (Path.join directory name) = Path.isAbsolute directory := by
  obtain ⟨rest, hjoin⟩ := exists_join_eq_append hdirectory hslash
  have hchars : directory.toList ≠ [] := by simpa using hdirectory
  obtain ⟨c, cs, hcons⟩ := List.exists_cons_of_ne_nil hchars
  rw [hjoin, Path.isAbsolute, Path.isAbsolute, String.toList_append, hcons]
  rfl

theorem startOf_join (hdirectory : directory ≠ "") (hslash : '/' ∉ name.toList) :
    fs.startOf (Path.join directory name) = fs.startOf directory := by
  rw [startOf, startOf, isAbsolute_join hdirectory hslash]

theorem walkable_of_join (hdirectory : directory ≠ "") (hslash : '/' ∉ name.toList)
    (h : walkable (Path.join directory name) = .ok pieces) :
    walkable directory = .ok (Path.pieces directory) ∧
      pieces = Path.pieces (Path.join directory name) := by
  obtain ⟨rest, hjoin⟩ := exists_join_eq_append hdirectory hslash
  obtain ⟨hnul, -, hshort, hpieces⟩ := walkable_eq_ok_iff.mp h
  rw [hjoin, String.toList_append, List.mem_append, not_or] at hnul
  rw [hjoin, String.utf8ByteSize_append] at hshort
  exact ⟨walkable_eq_ok_iff.mpr ⟨hnul.1, hdirectory, by omega, rfl⟩, hpieces⟩

/-- Nothing is found in a directory that could not be made. -/
theorem canonicalize?_join_of_error {e : IoError} (hs : fs.IsTree)
    (h : (makeDirectories directory).run fs = (.error e, fs')) (hidle : Path.isIdle name = false)
    (hslash : '/' ∉ name.toList) : fs'.canonicalize? (Path.join directory name) = none := by
  have hadded := makeDirectories_adds directory fs
  have hstays := makeDirectories_respects (allowsDirectories_staysTree _) ⟨hs, hs.startOf directory⟩
  rw [h] at hadded hstays
  have hstart : fs'.startOf directory = fs.startOf directory := by
    rw [startOf, startOf, hadded.workingDirectory]
  unfold makeDirectories at h
  split at h
  · cases h
  rename_i hempty
  have hdirectory : directory ≠ "" := fun hnil => hempty (String.isEmpty_iff.mpr hnil)
  rw [Option.eq_none_iff_forall_ne_some]
  intro here hhere
  obtain ⟨pieces, hwalkable, hleads⟩ := canonicalize?_eq_some_iff.mp hhere
  obtain ⟨hreadable, rfl⟩ := walkable_of_join hdirectory hslash hwalkable
  obtain ⟨front, hpieces, hfront⟩ := exists_pieces_join hdirectory hslash
  rw [run_get_bind, hreadable, run_liftM_bind] at h
  have hnone := leadsToDirectory_of_error hs (hs.startOf directory) h
  -- The way to the name leads through the directory, whose idle pieces do not matter.
  have hlast : [name].filter (fun piece => !Path.isIdle piece) = [name] :=
    List.filter_cons_of_pos (by rw [hidle]; rfl)
  have hway := hleads.filter (List.nil_append _).symm
  rw [List.nil_append, hpieces, List.filter_append, hfront, hlast, startOf_join hdirectory hslash,
    hstart] at hway
  rw [List.reverse_reverse, leadsToDirectory_of_append hstays.1 hstays.2 hway (by simp)] at hnone
  cases hnone

end Inside

end JdkFinder.FileSystem
