import JdkFinder.Execution
import JdkFinder.Proofs.Files.Folder
import JdkFinder.Proofs.Text.Words

/-!
# Downloads stay inside the install root

A catalog may give any texts for the name and the version of a JDK.  The directory that is named
after them is an entry of the install root all the same: its name is one component of a path that
leads neither up nor nowhere (`DownloadableJdk.target_is_child_of_root`), and on the files of a
machine it stands in the directory that the root leads to
(`DownloadableJdk.locateNew_installDirectory`).

The hyphen between the two texts is what no cleaning takes away.
-/

namespace JdkFinder

open FileSystem

/-! ## §1 Components of joined paths -/

namespace Path

/-- Letters and digits of ASCII, and the signs that versions are written with. -/
def IsPlainChar (c : Char) : Prop :=
  ('a' ≤ c ∧ c ≤ 'z') ∨ ('A' ≤ c ∧ c ≤ 'Z') ∨ ('0' ≤ c ∧ c ≤ '9') ∨ c ∈ ['.', '-', '_', '+']

/-- A name that can stand for a directory without any care. -/
structure IsPlainName (name : String) : Prop where
  notEmpty : name ≠ ""
  notHere : name ≠ "."
  notUp : name ≠ ".."
  plain : ∀ c ∈ name.toList, IsPlainChar c
  head : name.toList.head? ≠ some '_'
  last : name.toList.getLast? ≠ some '_'

/-- A path that goes on behind another one with a single component. -/
structure IsChild (parent name path : String) : Prop where
  absolute : isAbsolute path = isAbsolute parent
  components : components path = components parent ++ [name]

theorem IsPlainName.isComponent {name : String} (h : IsPlainName name) : IsComponent name where
  slash hslash := absurd (h.plain '/' hslash) (by unfold IsPlainChar; decide)
  notIdle := by
    rw [isIdle, Bool.or_eq_false_iff]
    exact ⟨by simpa [String.isEmpty_iff] using h.notEmpty, by simpa using h.notHere⟩
  notUp := h.notUp

theorem pieces_ne_nil (path : String) : pieces path ≠ [] := by
  rw [pieces, Ne, List.map_eq_nil_iff]
  exact List.splitOn_ne_nil _ _

/-- The first piece of a path is a component if it is a point, too. -/
theorem components_of_pieces {path piece : String} {rest : List String}
    (h : pieces path = piece :: rest) :
    components path = (if piece = "." then ["."] else [piece].filter (!isIdle ·)) ++
      rest.filter (!isIdle ·) := by
  unfold components
  rw [h]
  split
  · rename_i heq
    cases heq
    rfl
  · rename_i hpoint
    have hne : piece ≠ "." := fun heq => hpoint rest (by rw [heq])
    rw [if_neg hne, ← List.filter_append]
    rfl

/-- A component is put behind those of the directory. -/
theorem components_join (directory : String) {name : String} (h : IsComponent name) :
    components (join directory name) = components directory ++ [name] := by
  have hname : [name].filter (!isIdle ·) = [name] :=
    List.filter_cons_of_pos (by rw [h.notIdle]; rfl)
  by_cases hdirectory : directory = ""
  · have hpoint : name ≠ "." := by
      rintro rfl
      exact absurd h.notIdle (by decide)
    rw [hdirectory, join_empty h.slash, components_of_pieces (pieces_eq_singleton h.slash),
      if_neg hpoint, hname]
    rfl
  · obtain ⟨front, hfront, hjoin⟩ := exists_join directory hdirectory
    obtain ⟨piece, rest, hpieces⟩ := List.exists_cons_of_ne_nil (pieces_ne_nil front)
    have hjoined : pieces (join directory name) = piece :: (rest ++ [name]) := by
      rw [hjoin name h.slash, pieces_append_slash, pieces_eq_singleton h.slash, hpieces,
        List.cons_append]
    -- A slash at the end of the directory adds an empty piece, which is no component.
    have hsame : components directory = components front := by
      rcases hfront with rfl | rfl
      · rfl
      · have hslash := pieces_append_slash front ""
        rw [String.append_empty, hpieces, List.cons_append] at hslash
        rw [components_of_pieces hslash, components_of_pieces hpieces, List.filter_append]
        exact congrArg _ (List.append_nil _)
    rw [hsame, components_of_pieces hjoined, components_of_pieces hpieces, List.filter_append,
      hname, List.append_assoc]

theorem isChild_join (directory : String) {name : String} (h : IsComponent name) :
    IsChild directory name (join directory name) where
  absolute := by
    by_cases hdirectory : directory = ""
    · rw [hdirectory, join_empty h.slash, isAbsolute_eq_false h.slash]
      rfl
    · exact isAbsolute_join hdirectory h.slash
  components := components_join directory h

end Path

/-! ## §2 Names of directories -/

namespace DownloadableJdk

theorem isDirectoryChar_iff {c : Char} : isDirectoryChar c = true ↔ Path.IsPlainChar c := by
  have hletter : c.isAlpha = true ↔ ('A' ≤ c ∧ c ≤ 'Z') ∨ ('a' ≤ c ∧ c ≤ 'z') := by
    delta Char.isAlpha Char.isUpper Char.isLower
    simp only [Bool.or_eq_true, Bool.and_eq_true, decide_eq_true_iff, Char.le_def]
  simp only [isDirectoryChar, Path.IsPlainChar, Char.isAlphanum, hletter, Char.isDigit,
    Bool.or_eq_true, Bool.and_eq_true, decide_eq_true_iff, beq_iff_eq, List.mem_cons,
    List.not_mem_nil, or_false, or_assoc, Char.le_def]
  exact or_left_comm

/-- The characters of the name, before underscores are stripped. -/
theorem toList_directoryName (jdk : DownloadableJdk) :
    jdk.directoryName.toList = Text.stripWhile (· == '_')
      ((jdk.suggestedName ++ "-" ++ jdk.versionText).toList.map fun c =>
        if isDirectoryChar c then c else '_') :=
  String.toList_ofList

/-- The hyphen between name and version is kept. -/
theorem hyphen_mem_directoryName (jdk : DownloadableJdk) : '-' ∈ jdk.directoryName.toList := by
  rw [toList_directoryName]
  apply Text.mem_stripWhile _ rfl
  refine List.mem_map.mpr ⟨'-', ?_, rfl⟩
  simp

theorem isPlainName_directoryName (jdk : DownloadableJdk) :
    Path.IsPlainName jdk.directoryName := by
  -- With the hyphen in it the name is neither empty nor made of dots alone.
  have hother {name : String} (h : '-' ∉ name.toList) : jdk.directoryName ≠ name := by
    rintro rfl
    exact h jdk.hyphen_mem_directoryName
  have hplain : ∀ c ∈ jdk.directoryName.toList, Path.IsPlainChar c := by
    intro c hc
    rw [toList_directoryName] at hc
    -- What is kept was a plain character before, or it is an underscore that stands for another.
    obtain ⟨d, -, rfl⟩ := List.mem_map.mp (Text.mem_of_mem_stripWhile hc)
    split
    · rename_i hd
      exact isDirectoryChar_iff.mp hd
    · exact isDirectoryChar_iff.mp rfl
  have hhead : jdk.directoryName.toList.head? ≠ some '_' := by
    rw [toList_directoryName]
    intro h
    exact absurd (Text.head?_stripWhile '_' h) (by decide)
  have hlast : jdk.directoryName.toList.getLast? ≠ some '_' := by
    rw [toList_directoryName]
    intro h
    exact absurd (Text.getLast?_stripWhile '_' h) (by decide)
  exact
    { notEmpty := hother (by decide)
      notHere := hother (by decide)
      notUp := hother (by decide)
      plain := hplain
      head := hhead
      last := hlast }

/-! ## §3 Targets -/

theorem target_installTask (jdk : DownloadableJdk) (id target : String) :
    (jdk.installTask id target).target = target :=
  rfl

/-- A task installs a JDK in a directory of its own directly under the install root, from the
package as the catalog gives it. -/
theorem target_is_child_of_root (jdk : DownloadableJdk) (installRoot : String) (s : Surroundings) :
    Path.IsPlainName jdk.directoryName ∧
      jdk.installDirectory installRoot = Path.join installRoot jdk.directoryName ∧
      Path.IsChild installRoot jdk.directoryName (jdk.installDirectory installRoot) ∧
      ∃ task, Command.taskOf installRoot s (some (.download jdk)) = some task ∧
        Path.IsChild installRoot jdk.directoryName task.target ∧
        task.url = jdk.package.url ∧ task.sha256 = jdk.package.sha256 ∧
        task.size = jdk.package.size ∧ task.unpackPrefix = jdk.package.unpackPrefix := by
  have hname := jdk.isPlainName_directoryName
  have hchild := Path.isChild_join installRoot hname.isComponent
  have htask : Command.taskOf installRoot s (some (.download jdk)) =
      some (jdk.installTask s.taskId (jdk.installDirectory installRoot)) := rfl
  refine ⟨hname, rfl, hchild, _, htask, ?_, rfl, rfl, rfl, rfl⟩
  rw [target_installTask]
  exact hchild

/-- On a machine the directory is an entry of the one that the install root leads to, unless a link
of its name leads away from there. -/
theorem locateNew_installDirectory {jdk : DownloadableJdk} {installRoot : String} {fs : FileSystem}
    {there : Location} (hs : fs.IsTree)
    (h : fs.locateNew (jdk.installDirectory installRoot) = .ok there) :
    ∃ here, fs.Opens installRoot here ∧ (there = here ++ [jdk.directoryName] ∨
      ∃ target, fs.nodeAt? (here ++ [jdk.directoryName]) = some (.link target)) := by
  have hname := jdk.isPlainName_directoryName.isComponent
  obtain ⟨pieces, hwalkable, hleads⟩ := locateNew_eq_ok_iff.mp h
  obtain ⟨here, links, hopens, hlast⟩ := exists_opens hs hname.slash hwalkable hleads
  refine ⟨here, hopens, ?_⟩
  rcases (hlast.of_single hname.notIdle hname.notUp).2 with ⟨hthere, -⟩ | ⟨hthere, -⟩ | hlink
  · exact .inl hthere
  · exact .inl hthere
  · exact .inr hlink

end DownloadableJdk

end JdkFinder
