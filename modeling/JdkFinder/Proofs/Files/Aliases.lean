import JdkFinder.Proofs.Files.Folder

/-!
# Paths to the same place

Behind a path that leads to a directory a longer path finds what a walk from that directory finds
(`locate_behind`).  So all paths to one directory are continued alike, as long as none of them is
cut short: a path may be too long, and only so many links are followed along it.
-/

namespace JdkFinder.FileSystem

variable {fs : FileSystem} {create : Bool} {links links' : Nat} {start place : Location}
  {todo front : List String}

/-! ## §1 Walks with fewer links -/

/-- A walk along a name goes on by what stands there. -/
theorem walk_of_name {name : String} {rest : List String} (hname : IsName name) :
    fs.walk create links start (name :: rest) =
      match fs.nodeAt? (start ++ [name]) with
      | none =>
        if create && rest.isEmpty then .ok (start ++ [name])
        else if create && rest.all (·.isEmpty) then .error .isDirectory
        else .error .notFound
      | some (.file _) => if rest.isEmpty then .ok (start ++ [name]) else .error .notDirectory
      | some .directory => fs.walk create links (start ++ [name]) rest
      | some (.link target) =>
        match links with
        | 0 => .error .linkLoop
        | links + 1 =>
          fs.walk create links (if Path.isAbsolute target then [] else start)
            (Path.pieces target ++ rest) := by
  rw [walk, hname.notIdle, if_neg Bool.false_ne_true, if_neg hname.notUp]
  exact if_neg hname.short

/-- A walk that may follow fewer links goes the same way or runs out of them. -/
theorem walk_of_fewer_links {links links' : Nat} {start : Location} {todo : List String}
    (hlinks : links ≤ links') :
    fs.walk create links start todo = .error .linkLoop ∨
      fs.walk create links' start todo = fs.walk create links start todo := by
  -- The recursion is that of the walk itself.
  cases todo with
  | nil =>
    right
    rw [walk, walk]
  | cons name rest =>
    by_cases hidle : Path.isIdle name = true
    · rw [walk, walk, if_pos hidle, if_pos hidle]
      exact walk_of_fewer_links hlinks
    by_cases hup : name = ".."
    · rw [walk, walk, if_neg hidle, if_neg hidle, if_pos hup, if_pos hup]
      exact walk_of_fewer_links hlinks
    by_cases hlong : maxName < name.utf8ByteSize
    · right
      rw [walk, walk, if_neg hidle, if_neg hidle, if_neg hup, if_neg hup, if_pos hlong,
        if_pos hlong]
    have hname : IsName name := ⟨Bool.not_eq_true _ ▸ hidle, hup, hlong⟩
    rw [walk_of_name hname, walk_of_name hname]
    cases fs.nodeAt? (start ++ [name]) with
    | none => exact .inr rfl
    | some node =>
      cases node with
      | file => exact .inr rfl
      | directory => exact walk_of_fewer_links hlinks
      | link target =>
        cases links with
        | zero => exact .inl rfl
        | succ links =>
          obtain ⟨more, rfl⟩ := Nat.exists_eq_add_of_le' hlinks
          exact walk_of_fewer_links (Nat.le_add_left links more)
termination_by (links, todo.length)

/-- From the directory that the first pieces lead to, the others are followed with the links that
are left. -/
theorem Leads.exists_walk_append (h : Leads fs create links start front place)
    (hplace : fs.nodeAt? place = some .directory) :
    ∃ left ≤ links, ∀ rest,
      fs.walk create links start (front ++ rest) = fs.walk create left place rest := by
  -- On the way the front leads. The steps that end at something missing or at a file are ruled out,
  -- because the rest is walked from a directory.
  induction h with
  | done => exact ⟨_, Nat.le_refl _, fun rest => rfl⟩
  | idle hidle _ ih =>
    obtain ⟨left, hleft, hwalk⟩ := ih hplace
    refine ⟨left, hleft, fun rest => ?_⟩
    rw [List.cons_append, walk, if_pos hidle, hwalk]
  | up _ ih =>
    obtain ⟨left, hleft, hwalk⟩ := ih hplace
    refine ⟨left, hleft, fun rest => ?_⟩
    rw [List.cons_append, walk, isIdle_up, if_neg Bool.false_ne_true, if_pos rfl, hwalk]
  | new _ _ hnone =>
    rw [hnone] at hplace
    cases hplace
  | file _ hfile =>
    rw [hfile] at hplace
    cases hplace
  | directory hname hdirectory _ ih =>
    obtain ⟨left, hleft, hwalk⟩ := ih hplace
    refine ⟨left, hleft, fun rest => ?_⟩
    rw [List.cons_append, walk_of_name hname]
    simp only [hdirectory, hwalk]
  | link hname hlink _ ih =>
    obtain ⟨left, hleft, hwalk⟩ := ih hplace
    -- A link uses up one of those allowed, so the bound grows by one.
    refine ⟨left, Nat.le_succ_of_le hleft, fun rest => ?_⟩
    rw [List.cons_append, walk_of_name hname]
    simp only [hlink]
    rw [← List.append_assoc, hwalk]

/-! ## §2 Longer paths -/

/-- The way along a path is given up: the path is too long, or too many links are on it. -/
def CutShort (fs : FileSystem) (path : String) : Prop :=
  fs.locate path = .error .nameTooLong ∨ fs.locate path = .error .linkLoop

theorem walkable_of_long {path : String} (hnul : '\x00' ∉ path.toList) (hempty : path ≠ "")
    (hlong : maxPath < path.utf8ByteSize) : FileSystem.walkable path = .error .nameTooLong := by
  rw [FileSystem.walkable, if_neg (by simpa using hnul), if_neg (by simpa using hempty),
    if_pos hlong]

theorem canonicalizeLong?_eq_some_iff {path : String} :
    fs.canonicalizeLong? path = some place ↔ '\x00' ∉ path.toList ∧ path ≠ "" ∧
      fs.walk false maxLinks (fs.startOf path) (Path.pieces path) = .ok place := by
  by_cases hnul : '\x00' ∈ path.toList
  · simp [canonicalizeLong?, hnul]
  by_cases hempty : path = ""
  · simp [canonicalizeLong?, hempty]
  rw [canonicalizeLong?, if_neg (by simp [hnul, hempty])]
  cases fs.walk false maxLinks (fs.startOf path) (Path.pieces path) <;>
    simp [Except.toOption, hnul, hempty]

/-- A path goes on along some names behind the directory of another path. -/
structure Extends (directory path : String) (names : List String) : Prop where
  pieces : Path.pieces path = folderPieces directory ++ names
  length : directory.utf8ByteSize ≤ path.utf8ByteSize
  absolute : Path.isAbsolute path = Path.isAbsolute directory
  nul : '\x00' ∈ path.toList → '\x00' ∈ directory.toList
  nonempty : path ≠ ""

section Extensions

variable {directory path name : String} {names : List String}

theorem folderPieces_eq_or (hdirectory : directory ≠ "") :
    Path.pieces directory = folderPieces directory ∨
      Path.pieces directory = folderPieces directory ++ [""] := by
  obtain ⟨front, hfront, hjoin⟩ := exists_join directory hdirectory
  have hempty : Path.pieces "" = [""] := rfl
  have hfolder : folderPieces directory = Path.pieces front := by
    rw [folderPieces, hjoin "" (by simp), pieces_append_slash]
    exact List.dropLast_concat
  rcases hfront with rfl | rfl
  · exact .inl hfolder.symm
  · have hpieces := pieces_append_slash front ""
    rw [String.append_empty, hempty] at hpieces
    exact .inr (by rw [hpieces, hfolder])

/-- An entry of a directory. -/
theorem extends_join (hdirectory : directory ≠ "") (hslash : '/' ∉ name.toList)
    (hnul : '\x00' ∉ name.toList) : Extends directory (Path.join directory name) [name] where
  pieces := pieces_join directory hslash
  length := by
    obtain ⟨rest, hjoin⟩ := exists_join_eq_append hdirectory hslash
    rw [hjoin, String.utf8ByteSize_append]
    exact Nat.le_add_right _ _
  absolute := isAbsolute_join hdirectory hslash
  nul hmem := by
    -- The directory ends with a separator or is given one, and neither holds a null character.
    obtain ⟨front, hfront, hjoin⟩ := exists_join directory hdirectory
    rw [hjoin name hslash] at hmem
    have hchars : '\x00' ∈ front.toList := by
      simpa [hnul] using hmem
    rcases hfront with rfl | rfl
    · exact hchars
    · rw [String.toList_append]
      exact List.mem_append_left _ hchars
  nonempty hempty := by
    obtain ⟨rest, hjoin⟩ := exists_join_eq_append hdirectory hslash
    rw [hjoin] at hempty
    exact hdirectory (String.append_eq_empty_iff.mp hempty).1

/-- An entry of a directory behind the directory. -/
theorem Extends.join {last : String} (h : Extends directory path (names ++ [last]))
    (hlast : last ≠ "") (hslash : '/' ∉ name.toList) (hnul : '\x00' ∉ name.toList) :
    Extends directory (Path.join path name) (names ++ [last, name]) where
  pieces := by
    -- The path does not end with a slash, so its pieces are those of the directory that it names.
    have hfolder : folderPieces path = Path.pieces path := by
      rcases folderPieces_eq_or h.nonempty with hpieces | hpieces
      · exact hpieces.symm
      · rw [h.pieces, ← List.append_assoc] at hpieces
        exact absurd (List.append_inj_right' hpieces rfl) (by simpa using hlast)
    rw [pieces_join path hslash, hfolder, h.pieces]
    simp
  length := Nat.le_trans h.length (extends_join h.nonempty hslash hnul).length
  absolute := (extends_join h.nonempty hslash hnul).absolute.trans h.absolute
  nul hmem := h.nul ((extends_join h.nonempty hslash hnul).nul hmem)
  nonempty := (extends_join h.nonempty hslash hnul).nonempty

/-- Behind a path to a directory stands what a walk from the directory finds, unless the longer path
is cut short. -/
theorem locate_behind (h : Extends directory path names)
    (hdirectory : fs.canonicalize? directory = some place)
    (hplace : fs.nodeAt? place = some .directory) (hreach : ¬ fs.CutShort path) :
    fs.locate path = fs.walk false maxLinks place names := by
  obtain ⟨pieces, hwalkable, hleads⟩ := canonicalize?_eq_some_iff.mp hdirectory
  obtain ⟨hnul, hempty, -, rfl⟩ := walkable_eq_ok_iff.mp hwalkable
  have hstart : fs.startOf path = fs.startOf directory := by
    rw [startOf, startOf, h.absolute]
  -- The path is walked along unless it is too long.
  have hlocate : fs.locate path =
      fs.walk false maxLinks (fs.startOf directory) (folderPieces directory ++ names) := by
    by_cases hlong : maxPath < path.utf8ByteSize
    · refine absurd (.inl ?_) hreach
      rw [locate, walkable_of_long (fun hmem => hnul (h.nul hmem)) h.nonempty hlong]
      rfl
    · have hpath : FileSystem.walkable path = .ok (folderPieces directory ++ names) :=
        walkable_eq_ok_iff.mpr
          ⟨fun hmem => hnul (h.nul hmem), h.nonempty, Nat.not_lt.mp hlong, h.pieces.symm⟩
      rw [locate, hpath, hstart]
      rfl
  have hfront : Leads fs false maxLinks (fs.startOf directory) (folderPieces directory) place := by
    rcases folderPieces_eq_or hempty with hpieces | hpieces
    · exact hpieces ▸ hleads
    · have hfiltered := hleads.filter hpieces
      rwa [List.filter_cons_of_neg (by decide), List.filter_nil, List.append_nil] at hfiltered
  obtain ⟨left, hleft, hwalk⟩ := hfront.exists_walk_append hplace
  rw [hlocate, hwalk]
  rcases walk_of_fewer_links hleft with hloop | hsame
  · exact absurd (.inr (hlocate.trans ((hwalk names).trans hloop))) hreach
  · exact hsame.symm

/-- A path is short enough to be opened if a longer one is not cut short. -/
theorem Extends.canonicalize?_of_long (h : Extends directory path names)
    (hreach : ¬ fs.CutShort path) (hlong : fs.canonicalizeLong? directory = some place) :
    fs.canonicalize? directory = some place := by
  obtain ⟨hnul, hempty, hwalk⟩ := canonicalizeLong?_eq_some_iff.mp hlong
  have hshort : path.utf8ByteSize ≤ maxPath := by
    refine Nat.not_lt.mp fun hlonger => hreach (.inl ?_)
    rw [locate, walkable_of_long (fun hmem => hnul (h.nul hmem)) h.nonempty hlonger]
    rfl
  exact canonicalize?_eq_some_iff.mpr ⟨_,
    walkable_eq_ok_iff.mpr ⟨hnul, hempty, Nat.le_trans h.length hshort, rfl⟩, leads_of_walk hwalk⟩

end Extensions

end JdkFinder.FileSystem
