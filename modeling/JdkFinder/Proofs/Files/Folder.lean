import JdkFinder.Proofs.Files.Tree

/-!
# The files of one directory

All paths `directory/name` lead through one place, the one that `directory` leads to (`Opens`).
What stands there under a name can be read, replaced and removed at its path, and nothing that is
done to files opens another place (`Opens.transfer`).

A directory that is there is not made again (`Opens.run_makeDirectories`).
-/

namespace JdkFinder.FileSystem

/-! ## §1 Walks one after another -/

section Walks

variable {fs fs' : FileSystem} {create create' : Bool} {links : Nat}
  {start between here there : Location} {todo front back : List String} {name : String}

theorem Leads.unique (h : Leads fs create links start todo here)
    (h' : Leads fs create links start todo there) : here = there :=
  Except.ok.inj ((walk_of_leads h).symm.trans (walk_of_leads h'))

/-- Where the first pieces lead to a directory, the other ones are followed from there. -/
theorem Leads.append (h : Leads fs create links start front between)
    (hbetween : fs.nodeAt? between = some .directory)
    (hnext : ∀ links, Leads fs create links between back here) :
    Leads fs create links start (front ++ back) here := by
  -- On the way the front leads. It ends in a directory, so the last step creates nothing and is no
  -- file.
  induction h with
  | done => exact hnext _
  | idle hidle _ ih => exact .idle hidle (ih hbetween hnext)
  | up _ ih => exact .up (ih hbetween hnext)
  | new _ _ hnone =>
    rw [hnone] at hbetween
    cases hbetween
  | file _ hfile =>
    rw [hfile] at hbetween
    cases hbetween
  | directory hname hdirectory _ ih => exact .directory hname hdirectory (ih hbetween hnext)
  | link hname hlink _ ih =>
    have hrest := ih hbetween hnext
    rw [List.append_assoc] at hrest
    exact .link hname hlink hrest

/-- A walk to a directory meets with directories and links only, and goes the same way wherever they
are still there. -/
theorem Leads.transfer_directory (h : Leads fs create links start todo here)
    (hhere : fs.nodeAt? here = some .directory)
    (hkept : ∀ place node, fs.nodeAt? place = some node → (∀ file, node ≠ .file file) →
      fs'.nodeAt? place = some node) :
    Leads fs' create' links start todo here := by
  -- Only directories and links lie on the way to a directory, and these are kept.
  induction h with
  | done => exact .done
  | idle hidle _ ih => exact .idle hidle (ih hhere)
  | up _ ih => exact .up (ih hhere)
  | new _ _ hnone =>
    rw [hnone] at hhere
    cases hhere
  | file _ hfile =>
    rw [hfile] at hhere
    cases hhere
  | directory hname hdirectory _ ih =>
    exact .directory hname (hkept _ _ hdirectory (by simp)) (ih hhere)
  | link hname hlink _ ih => exact .link hname (hkept _ _ hlink (by simp)) (ih hhere)

/-- A text that can be the last component of a path, however long it is. -/
structure IsComponent (name : String) : Prop where
  slash : '/' ∉ name.toList
  notIdle : Path.isIdle name = false
  notUp : name ≠ ".."

/-- A single name is an entry of the directory where the walk starts. -/
theorem Leads.of_single (h : Leads fs create links start [name] here)
    (hidle : Path.isIdle name = false) (hup : name ≠ "..") :
    IsName name ∧ (here = start ++ [name] ∧ fs.nodeAt? here ≠ none ∨
      here = start ++ [name] ∧ create = true ∨
      ∃ target, fs.nodeAt? (start ++ [name]) = some (.link target)) := by
  cases h with
  | idle hidle' =>
    rw [hidle] at hidle'
    cases hidle'
  | up => exact absurd rfl hup
  | new hname hcreate => exact ⟨hname, .inr (.inl ⟨rfl, hcreate⟩)⟩
  | file hname hfile => exact ⟨hname, .inl ⟨rfl, by simp [hfile]⟩⟩
  | directory hname hdirectory next =>
    cases next
    exact ⟨hname, .inl ⟨rfl, by simp [hdirectory]⟩⟩
  | link hname hlink => exact ⟨hname, .inr (.inr ⟨_, hlink⟩)⟩

end Walks

/-! ## §2 Paths into a directory -/

/-- The pieces of the paths into a directory, without the name at the end. -/
def folderPieces (directory : String) : List String :=
  (Path.pieces (Path.join directory "")).dropLast

/-- The paths into a directory lead through a place. -/
structure Opens (fs : FileSystem) (directory : String) (here : Location) : Prop where
  /-- Paths into the empty path are relative. -/
  walkable : directory = "" ∨ ∃ pieces, FileSystem.walkable directory = .ok pieces
  leads : Leads fs false maxLinks (fs.startOf directory) (folderPieces directory) here
  isDirectory : fs.nodeAt? here = some .directory

section Paths

variable {fs fs' : FileSystem} {directory name : String} {here there : Location}
  {pieces : List String}

theorem isAbsolute_eq_false (hslash : '/' ∉ name.toList) : Path.isAbsolute name = false := by
  rw [Path.isAbsolute, beq_eq_false_iff_ne]
  exact fun hhead => hslash (List.mem_of_mem_head? hhead)

theorem join_empty (hslash : '/' ∉ name.toList) : Path.join "" name = name := by
  rw [Path.join, isAbsolute_eq_false hslash]
  exact String.empty_append

/-- The name at the end of a path is no idle piece to be left out. -/
theorem dropWhile_pieces (directory : String) (hidle : Path.isIdle name = false) :
    ((folderPieces directory ++ [name]).reverse.dropWhile (·.isEmpty)) =
      name :: (folderPieces directory).reverse := by
  rw [List.reverse_append, List.reverse_singleton, List.singleton_append]
  exact List.dropWhile_cons_of_neg (by rw [(Bool.or_eq_false_iff.mp hidle).1]; decide)

theorem pieces_join (directory : String) (hslash : '/' ∉ name.toList) :
    Path.pieces (Path.join directory name) = folderPieces directory ++ [name] := by
  by_cases hdirectory : directory = ""
  · subst hdirectory
    rw [join_empty hslash, pieces_eq_singleton hslash]
    rfl
  · obtain ⟨front, -, hjoin⟩ := exists_join directory hdirectory
    have hfront : folderPieces directory = Path.pieces front := by
      rw [folderPieces, hjoin "" (by simp), pieces_append_slash]
      exact List.dropLast_concat
    rw [hjoin name hslash, pieces_append_slash, pieces_eq_singleton hslash, hfront]

theorem startOf_join_eq (fs : FileSystem) (directory : String) (hslash : '/' ∉ name.toList) :
    fs.startOf (Path.join directory name) = fs.startOf directory := by
  by_cases hdirectory : directory = ""
  · subst hdirectory
    rw [join_empty hslash, startOf, startOf, isAbsolute_eq_false hslash]
    rfl
  · exact startOf_join hdirectory hslash

namespace Opens

theorem unique (h : fs.Opens directory here) (h' : fs.Opens directory there) : here = there :=
  h.leads.unique h'.leads

/-- Files make no difference to the place of a directory. -/
theorem transfer (h : fs.Opens directory here)
    (hworking : fs'.workingDirectory = fs.workingDirectory)
    (hkept : ∀ place node, fs.nodeAt? place = some node → (∀ file, node ≠ .file file) →
      fs'.nodeAt? place = some node) : fs'.Opens directory here where
  walkable := h.walkable
  leads := by
    have hstart : fs'.startOf directory = fs.startOf directory := by
      rw [startOf, startOf, hworking]
    rw [hstart]
    exact h.leads.transfer_directory h.isDirectory hkept
  isDirectory := hkept _ _ h.isDirectory (by simp)

/-- An entry of the directory is found at its path. -/
theorem locate_join (h : fs.Opens directory here) {create : Bool} (hslash : '/' ∉ name.toList)
    (hentry : ∀ links, Leads fs create links here [name] there) :
    Leads fs create maxLinks (fs.startOf (Path.join directory name))
      (Path.pieces (Path.join directory name)) there := by
  rw [pieces_join directory hslash, startOf_join_eq fs directory hslash]
  exact (h.leads.transfer_directory h.isDirectory fun _ _ hnode _ => hnode).append h.isDirectory
    hentry

end Opens

/-- A path into a directory that leads anywhere leads through the place of the directory. -/
theorem exists_opens {create : Bool} (hs : fs.IsTree) (hslash : '/' ∉ name.toList)
    (hwalkable : walkable (Path.join directory name) = .ok pieces)
    (h : Leads fs create maxLinks (fs.startOf (Path.join directory name)) pieces there) :
    ∃ here links, fs.Opens directory here ∧ Leads fs create links here [name] there := by
  obtain ⟨-, -, -, rfl⟩ := walkable_eq_ok_iff.mp hwalkable
  rw [pieces_join directory hslash, startOf_join_eq fs directory hslash] at h
  obtain ⟨links, here, hfront, hhere, hlast⟩ := h.split hs (hs.startOf _) rfl (by simp)
  refine ⟨here, links, ⟨?_, hfront.transfer_directory hhere fun _ _ hnode _ => hnode, hhere⟩, hlast⟩
  by_cases hdirectory : directory = ""
  · exact .inl hdirectory
  · exact .inr ⟨_, (walkable_of_join hdirectory hslash hwalkable).1⟩

/-! ## §3 Making the directory -/

/-- A directory that is there is not made again. -/
theorem run_makeDirectoriesIn {start : Location} {names : List String} (hs : fs.IsTree)
    (hstart : fs.nodeAt? start = some .directory)
    (hidle : ∀ name ∈ names, Path.isIdle name = false)
    (h : Leads fs false maxLinks start names.reverse here)
    (hhere : fs.nodeAt? here = some .directory) :
    (makeDirectoriesIn start names).run fs = (.ok (), fs) := by
  cases names with
  | nil => rfl
  | cons name above =>
    have hfound : fs.leadsToDirectory start (name :: above).reverse = true :=
      leadsToDirectory_iff.mpr ⟨here, h, hhere⟩
    rw [List.reverse_cons] at h
    obtain ⟨links, between, hfront, hbetween, hlast⟩ := h.split hs hstart rfl (by simp)
    have hwalk : fs.walk false maxLinks start (above.reverse ++ [""]) = .ok between :=
      walk_of_leads (hfront.append hbetween fun _ => .idle FileSystem.isIdle_empty .done)
    -- The innermost directory is there, so nothing is made.
    have hthere : (makeDirectoryIn start above.reverse name).run fs =
        (.error .alreadyExists, fs) := by
      unfold makeDirectoryIn
      rw [run_get_bind, hwalk, run_liftM_bind]
      dsimp only
      by_cases hup : name = ".."
      · rw [if_pos hup]
        rfl
      obtain ⟨hname, hlast⟩ := hlast.of_single (hidle name List.mem_cons_self) hup
      obtain ⟨node, hnode⟩ : ∃ node, fs.nodeAt? (between ++ [name]) = some node := by
        rcases hlast with ⟨rfl, hsome⟩ | ⟨-, hcreate⟩ | ⟨target, hlink⟩
        · exact Option.ne_none_iff_exists'.mp hsome
        · cases hcreate
        · exact ⟨_, hlink⟩
      rw [if_neg hup, if_neg hname.short, hnode]
      rfl
    unfold makeDirectoriesIn
    rw [run_tryCatch, hthere]
    dsimp only
    rw [if_neg (by decide)]
    unfold unlessDirectory
    rw [run_get_bind, hfound]
    rfl

theorem Opens.run_makeDirectories (h : fs.Opens directory here) (hs : fs.IsTree) :
    (makeDirectories directory).run fs = (.ok (), fs) := by
  unfold makeDirectories
  split
  · rfl
  rename_i hempty
  have hdirectory : directory ≠ "" := fun hnil => hempty (String.isEmpty_iff.mpr hnil)
  obtain ⟨pieces, hwalkable⟩ := h.walkable.resolve_left hdirectory
  obtain ⟨-, -, -, rfl⟩ := walkable_eq_ok_iff.mp hwalkable
  -- The pieces of the directory and those of the paths into it differ in idle ones only.
  have hslash : '/' ∉ ("" : String).toList := by simp
  obtain ⟨front, hpieces, hfront⟩ := exists_pieces_join hdirectory hslash
  have hfolder : folderPieces directory = front := by
    rw [folderPieces, hpieces, List.dropLast_concat]
  have hleads := h.leads.filter (List.nil_append _).symm
  rw [List.nil_append, hfolder, hfront] at hleads
  rw [run_get_bind, hwalkable, run_liftM_bind]
  refine run_makeDirectoriesIn hs (hs.startOf directory) (fun name hname => ?_) ?_ h.isDirectory
  · simpa using (List.mem_filter.mp (List.mem_reverse.mp hname)).2
  · rwa [List.reverse_reverse]

/-! ## §4 The entries of the directory -/

namespace Opens

/-- A file of the directory is found at its path. -/
theorem locate_file (h : fs.Opens directory here) {file : RegularFile} (hslash : '/' ∉ name.toList)
    (hname : IsName name) (hwalkable : FileSystem.walkable (Path.join directory name) = .ok pieces)
    (hfile : fs.nodeAt? (here ++ [name]) = some (.file file)) :
    fs.locate (Path.join directory name) = .ok (here ++ [name]) := by
  obtain ⟨-, -, -, rfl⟩ := walkable_eq_ok_iff.mp hwalkable
  exact locate_eq_ok_iff.mpr
    ⟨_, hwalkable, h.locate_join hslash fun _ => .file hname hfile⟩

/-- The entry itself is removed, also if it is a link. -/
theorem run_removeFile (h : fs.Opens directory here) {node : Node} (hslash : '/' ∉ name.toList)
    (hname : IsName name) (hwalkable : FileSystem.walkable (Path.join directory name) = .ok pieces)
    (hnode : fs.nodeAt? (here ++ [name]) = some node) (hdirectory : node ≠ .directory) :
    (removeFile (Path.join directory name)).run fs = (.ok (), fs.clear (here ++ [name])) := by
  obtain ⟨-, -, -, rfl⟩ := walkable_eq_ok_iff.mp hwalkable
  have hidle := Bool.or_eq_false_iff.mp hname.notIdle
  have hlast := dropWhile_pieces directory hname.notIdle
  -- Removing a file walks the folder with an empty last piece, which changes nothing.
  have hfolder : fs.walk false maxLinks (fs.startOf directory) (folderPieces directory ++ [""]) =
      .ok here :=
    walk_of_leads (h.leads.append h.isDirectory fun _ => .idle FileSystem.isIdle_empty .done)
  have hpoints : ¬ (name = "." ∨ name = "..") :=
    not_or.mpr ⟨beq_eq_false_iff_ne.mp hidle.2, hname.notUp⟩
  have hentry : fs.locateEntry (Path.join directory name) = .ok (some (here ++ [name])) := by
    rw [locateEntry, hwalkable]
    simp only [bind, Except.bind, pieces_join directory hslash, hlast, List.reverse_reverse,
      startOf_join_eq fs directory hslash, hfolder, if_neg hpoints, if_neg hname.short]
  unfold removeFile
  rw [run_get_bind, hentry, run_liftM_bind]
  simp only [hnode]
  cases node with
  | directory => exact absurd rfl hdirectory
  | file file => rfl
  | link target => rfl

end Opens

/-- What is written at the path of an entry is put into the directory, unless a link leads away. -/
theorem locateNew_of_writeBytes {content : ByteArray} (hs : fs.IsTree) (hname : IsComponent name)
    (hwrite : (writeBytes (Path.join directory name) content).run fs = (.ok (), fs')) :
    ∃ here pieces, fs.Opens directory here ∧ IsName name ∧
      walkable (Path.join directory name) = .ok pieces ∧
      ((∀ target, fs.nodeAt? (here ++ [name]) ≠ some (.link target)) →
        fs.locateNew (Path.join directory name) = .ok (here ++ [name])) := by
  obtain ⟨there, -, hlocate, -, -⟩ := writeBytes_eq_ok hwrite
  obtain ⟨pieces, hwalkable, hleads⟩ := locateNew_eq_ok_iff.mp hlocate
  obtain ⟨here, links, hopens, hlast⟩ := exists_opens hs hname.slash hwalkable hleads
  obtain ⟨hshort, hlast⟩ := hlast.of_single hname.notIdle hname.notUp
  refine ⟨here, pieces, hopens, hshort, hwalkable, fun hlink => ?_⟩
  -- The last step of the write: a new name, a file, or a link, which is excluded.
  rcases hlast with ⟨rfl, -⟩ | ⟨rfl, -⟩ | ⟨target, htarget⟩
  · exact hlocate
  · exact hlocate
  · exact absurd htarget (hlink target)

/-- A name that is nowhere in the directory leads nowhere. -/
theorem canonicalize?_join_eq_none (hs : fs.IsTree) (hname : IsComponent name)
    (hmissing : ∀ here, fs.Opens directory here → fs.nodeAt? (here ++ [name]) = none) :
    fs.canonicalize? (Path.join directory name) = none := by
  rw [Option.eq_none_iff_forall_ne_some]
  intro there hthere
  obtain ⟨pieces, hwalkable, hleads⟩ := canonicalize?_eq_some_iff.mp hthere
  obtain ⟨here, links, hopens, hlast⟩ := exists_opens hs hname.slash hwalkable hleads
  exact not_leads_of_missing (hlast.of_single hname.notIdle hname.notUp).1 (hmissing here hopens)
    hlast

/-- A file that can be read can be removed, and then nothing is found at its path. -/
theorem removeFile_of_readText {text : String} (hs : fs.IsTree) (hname : IsComponent name)
    (hread : fs.readText (Path.join directory name) = .ok text) :
    ∃ fs', (removeFile (Path.join directory name)).run fs = (.ok (), fs') ∧
      fs'.canonicalize? (Path.join directory name) = none := by
  obtain ⟨there, file, hlocate, hfile, -⟩ := readText_eq_ok_iff.mp hread
  obtain ⟨pieces, hwalkable, hleads⟩ := locate_eq_ok_iff.mp hlocate
  obtain ⟨here, links, hopens, hlast⟩ := exists_opens hs hname.slash hwalkable hleads
  obtain ⟨hshort, hlast⟩ := hlast.of_single hname.notIdle hname.notUp
  -- The entry is the file itself or a link on the way to it.
  obtain ⟨node, hnode, hdirectory⟩ :
      ∃ node, fs.nodeAt? (here ++ [name]) = some node ∧ node ≠ .directory := by
    rcases hlast with ⟨rfl, -⟩ | ⟨-, hcreate⟩ | ⟨target, hlink⟩
    · exact ⟨_, hfile, by simp⟩
    · cases hcreate
    · exact ⟨_, hlink, by simp⟩
  refine ⟨_, hopens.run_removeFile hname.slash hshort hwalkable hnode hdirectory, ?_⟩
  have hbefore : fs.nodeAt? (here ++ [name]) ≠ some .directory := by
    rw [hnode]
    exact fun h => hdirectory (Option.some.inj h)
  refine canonicalize?_join_eq_none (hs.clear hbefore) hname fun place hplace => ?_
  have hopened : fs.Opens directory place := by
    refine hplace.transfer rfl fun other node hother _ => ?_
    rw [nodeAt?_clear _ (by simp)] at hother
    split at hother
    · cases hother
    · exact hother
  rw [hopened.unique hopens, nodeAt?_clear _ (by simp), if_pos rfl]

end Paths

end JdkFinder.FileSystem
