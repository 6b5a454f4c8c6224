import JdkFinder.Registry
import JdkFinder.Proofs.Execution.Homes
import JdkFinder.Proofs.Files.Frame
import JdkFinder.Proofs.Scan.Coverage

/-!
# Files that are no part of a JDK

A file can be written without a change to what is known of the registered JDKs
(`Registry.candidates_place`) and to what a scan finds (`Scanner.results_place`), as long as no path
of a program or of a release file leads to it.  A scan may see the name of the file in one of its
roots, but looks for homes in directories only.
-/

namespace JdkFinder

open FileSystem

/-! ## §1 Entries of directories -/

namespace FileSystem

variable {fs fs' : FileSystem} {place here there : Location} {path root name : String}

theorem eraseDups_concat (names : List String) (name : String) :
    (names ++ [name]).eraseDups = names.eraseDups ∨
      (names ++ [name]).eraseDups = names.eraseDups ++ [name] := by
  rw [List.eraseDups_append]
  by_cases hmem : name ∈ names
  · left
    have hnone : [name].removeAll names = [] := by simp [List.removeAll, hmem]
    rw [hnone, List.eraseDups_nil, List.append_nil]
  · right
    have hone : [name].removeAll names = [name] := by simp [List.removeAll, hmem]
    have hsingle : [name].eraseDups = [name] := by simp [List.eraseDups_cons]
    rw [hone, hsingle]

/-- What is put at a place is at most one more name in its directory. -/
theorem names_place (fs : FileSystem) (place : Location) (node : Node) (directory : Location) :
    (fs.place place node).names directory = fs.names directory ∨
      ∃ name, place = directory ++ [name] ∧
        (fs.place place node).names directory = fs.names directory ++ [name] := by
  unfold FileSystem.place
  split
  · -- An entry at the place is exchanged for another of the same name.
    left
    unfold names
    rw [List.filterMap_map]
    congr 2
    funext entry
    dsimp only [Function.comp_apply]
    by_cases hentry : (entry.1 == place) = true
    · rw [if_pos hentry, beq_iff_eq.mp hentry]
    · rw [if_neg hentry]
  · -- A new entry adds its name to the directory it stands in, unless the name is there already.
    unfold names
    rw [List.filterMap_append, List.filterMap_cons, List.filterMap_nil]
    dsimp only
    by_cases hdirectory : (place.dropLast == directory) = true
    · rw [if_pos hdirectory]
      cases hname : place.getLast? with
      | none => exact .inl (by rw [List.append_nil])
      | some name =>
        rcases eraseDups_concat _ name with hsame | hmore
        · exact .inl hsame
        · refine .inr ⟨name, ?_, hmore⟩
          rw [← beq_iff_eq.mp hdirectory]
          exact (List.dropLast_append_getLast? name hname).symm
    · rw [if_neg hdirectory]
      exact .inl (by rw [List.append_nil])

theorem children_of_directory (hpath : fs.canonicalize? path = some here)
    (hdirectory : fs.nodeAt? here = some .directory) : fs.children path = fs.names here := by
  rw [children, hpath]
  exact if_pos hdirectory

theorem children_of_not_isDirectory (h : fs.isDirectory path = false) : fs.children path = [] := by
  rw [isDirectory, nodeOf?] at h
  rw [children]
  split
  · rename_i here hhere
    rw [hhere, Option.bind_some, beq_eq_false_iff_ne] at h
    rw [if_neg h]
  · rfl

/-- The path of a file in a directory leads to the file, if it leads anywhere. -/
theorem eq_of_canonicalize?_entry {file : RegularFile} (hname : IsComponent name)
    (hroot : fs.canonicalize? root = some here) (hdirectory : fs.nodeAt? here = some .directory)
    (hfile : fs.nodeAt? (here ++ [name]) = some (.file file))
    (hpath : fs.canonicalize? (Path.join root name) = some there) : there = here ++ [name] := by
  obtain ⟨pieces, hpieces, -⟩ := canonicalize?_eq_some_iff.mp hpath
  have hlocate := locate_of_canonicalize? hpath
  have hnonempty : root ≠ "" := by
    obtain ⟨_, hwalkable, -⟩ := canonicalize?_eq_some_iff.mp hroot
    exact (walkable_eq_ok_iff.mp hwalkable).2.1
  have hnul : '\x00' ∉ name.toList := by
    obtain ⟨front, -, hjoin⟩ := exists_join root hnonempty
    have hclean := (walkable_eq_ok_iff.mp hpieces).1
    rw [hjoin name hname.slash, String.toList_append, List.mem_append, not_or] at hclean
    exact hclean.2
  have hreach : ¬ fs.CutShort (Path.join root name) := by
    rintro (hlong | hloop)
    · rw [hlocate] at hlong
      cases hlong
    · rw [hlocate] at hloop
      cases hloop
  -- What is left is a walk of one step from the directory, and a file stands there.
  rw [locate_behind (extends_join hnonempty hname.slash hnul) hroot hdirectory hreach] at hlocate
  obtain ⟨-, ⟨hthere, -⟩ | ⟨-, hcreate⟩ | ⟨target, hlink⟩⟩ :=
    (leads_of_walk hlocate).of_single hname.notIdle hname.notUp
  · exact hthere
  · cases hcreate
  · rw [hfile] at hlink
    cases hlink

namespace FileWritten

variable (h : FileWritten place fs fs')
include h

theorem canonicalizeLong?_of_before (hpath : fs.canonicalizeLong? path = some here) :
    fs'.canonicalizeLong? path = some here := by
  obtain ⟨hnul, hempty, hwalk⟩ := canonicalizeLong?_eq_some_iff.mp hpath
  refine canonicalizeLong?_eq_some_iff.mpr ⟨hnul, hempty, ?_⟩
  rw [h.startOf_eq]
  exact walk_of_leads (h.leads_after (leads_of_walk hwalk) (.inl rfl))

theorem canonicalizeLong?_of_after (hpath : fs'.canonicalizeLong? path = some here)
    (hhere : here ≠ place) : fs.canonicalizeLong? path = some here := by
  obtain ⟨hnul, hempty, hwalk⟩ := canonicalizeLong?_eq_some_iff.mp hpath
  refine canonicalizeLong?_eq_some_iff.mpr ⟨hnul, hempty, ?_⟩
  rw [h.startOf_eq] at hwalk
  exact walk_of_leads (h.leads_before (leads_of_walk hwalk) hhere)

/-- The written file is no directory. -/
theorem not_isDirectory (hpath : fs'.canonicalize? path = some place) :
    fs'.isDirectory path = false := by
  obtain ⟨file, hfile⟩ := h.after
  rw [isDirectory, nodeOf?, hpath, Option.bind_some, hfile]
  rfl

/-- The path of the written file in its directory leads to no directory. -/
theorem isDirectory_entry (hname : IsComponent name) (hplace : place = here ++ [name])
    (hroot : fs'.canonicalize? root = some here) (hdirectory : fs'.nodeAt? here = some .directory) :
    fs'.isDirectory (Path.join root name) = false := by
  obtain ⟨file, hfile⟩ := h.after
  rw [hplace] at hfile
  cases hpath : fs'.canonicalize? (Path.join root name) with
  | none =>
    rw [isDirectory, nodeOf?, hpath]
    rfl
  | some there =>
    apply h.not_isDirectory
    rw [hpath, eq_of_canonicalize?_entry hname hroot hdirectory hfile hpath, hplace]

/-- A directory stays where it is. -/
theorem canonicalize?_eq_of_directory (hpath : fs'.isDirectory path = true) :
    fs.canonicalize? path = fs'.canonicalize? path := by
  apply h.canonicalize?_eq
  intro hplace
  rw [h.not_isDirectory hplace] at hpath
  cases hpath

end FileWritten

end FileSystem

/-! ## §2 Registered JDKs -/

/-- A file can be written at a place, and will be no program and no release file of any home. -/
structure JdkHome.Outside (fs : FileSystem) (place : Location) : Prop where
  entry : ∀ directory name, place = directory ++ [name] → IsComponent name
  nonempty : place ≠ []
  before : ∀ node, fs.nodeAt? place = some node → ∃ file, node = .file file
  program : ∀ file directory,
    (fs.place place (.file file)).canonicalize? (Path.join directory "java") ≠ some place
  release : ∀ file home,
    (fs.place place (.file file)).canonicalize? (Path.join home "release") ≠ some place

namespace JdkHome.Outside

variable {fs : FileSystem} {place : Location} (h : Outside fs place) (file : RegularFile)
include h

theorem fileWritten : FileWritten place fs (fs.place place (.file file)) :=
  fileWritten_place h.nonempty h.before file

theorem apart (home : String) : Apart (fs.place place (.file file)) place home where
  program := h.program file _
  release := h.release file home

theorem isValid_place : isValid (fs.place place (.file file)) = isValid fs := by
  funext home
  exact (isValid_eq (h.fileWritten file) (h.apart file home)).symm

theorem of?_place : Probe.of? (fs.place place (.file file)) = Probe.of? fs := by
  funext home declared
  exact (Probe.of?_eq (h.fileWritten file) (h.apart file home) declared).symm

theorem ofValid?_place : Probe.ofValid? (fs.place place (.file file)) = Probe.ofValid? fs := by
  funext home
  rw [Probe.ofValid?, Probe.ofValid?, h.isValid_place, h.of?_place]

end JdkHome.Outside

/-- Without links a file of another name is no part of a JDK. -/
theorem JdkHome.Outside.of_hasNoLinks {fs : FileSystem} {directory : Location} {name : String}
    (hs : fs.IsTree) (hlinks : fs.HasNoLinks) (hdirectory : fs.nodeAt? directory = some .directory)
    (hbefore : fs.nodeAt? (directory ++ [name]) ≠ some .directory) (hname : IsComponent name)
    (hprogram : name ≠ "java") (hrelease : name ≠ "release") :
    Outside fs (directory ++ [name]) := by
  have hnonempty : directory ++ [name] ≠ [] := by simp
  -- Without links the last name of a path is that of the place it leads to.
  have hother {other : String} (hcomponent : IsComponent other) (hother : name ≠ other)
      (file : RegularFile) (above : String) :
      (fs.place (directory ++ [name]) (.file file)).canonicalize? (Path.join above other) ≠
        some (directory ++ [name]) := by
    have hparent : fs.nodeAt? (directory ++ [name]).dropLast = some .directory := by
      rwa [List.dropLast_concat]
    have htree := hs.place hnonempty hparent hbefore (.file file)
    intro hpath
    have hlast :=
      (hlinks.placed hnonempty (by simp)).getLast?_of_canonicalize? htree hcomponent hpath
    rw [List.getLast?_concat, Option.some.injEq] at hlast
    exact hother hlast
  have hjava : IsComponent "java" := ⟨by decide, by decide, by decide⟩
  have hreleaseName : IsComponent "release" := ⟨by decide, by decide, by decide⟩
  refine ⟨fun _ other hsplit => ?_, hnonempty, fun node hnode => ?_, hother hjava hprogram,
    hother hreleaseName hrelease⟩
  · rwa [← (List.append_inj' hsplit rfl).2 |> List.cons.inj |>.1]
  · cases node with
    | file file => exact ⟨file, rfl⟩
    | directory => exact absurd hnode hbefore
    | link target => exact absurd hnode (hlinks _ target)

/-- What rows describe does not depend on a file that is no part of a JDK. -/
theorem Registry.candidates_place {fs : FileSystem} {place : Location}
    (h : JdkHome.Outside fs place) (file : RegularFile) (rows : List Registration)
    (env : Environment) :
    candidates rows (fs.place place (.file file)) env = candidates rows fs env := by
  have hjdk : (fun row : Registration => row.toJdk? (fs.place place (.file file)) env) =
      fun row => row.toJdk? fs env := by
    funext row
    rw [Registration.toJdk?, Registration.toJdk?, h.isValid_place, h.of?_place]
  rw [candidates, candidates, hjdk]

/-! ## §3 Homes -/

namespace Scanner

section Homes

variable {fs : FileSystem} {place : Location} (h : JdkHome.Outside fs place) (file : RegularFile)
  (env : Environment)
include h

/-- A directory of a root holds the same homes. -/
theorem homesUnder_place (directory : String) :
    homesUnder (fs.place place (.file file)) directory = homesUnder fs directory := by
  rw [homesUnder, homesUnder, h.isValid_place]

/-- The directories in a root are the same: the file that is written is none of them. -/
theorem directories_place (root : String) :
    (((fs.place place (.file file)).children root).map (Path.join root)).filter (fun directory =>
        (fs.place place (.file file)).isDirectory directory &&
          (fs.place place (.file file)).canonicalize? directory !=
            (fs.place place (.file file)).canonicalize? root) =
      ((fs.children root).map (Path.join root)).filter fun directory =>
        fs.isDirectory directory && fs.canonicalize? directory != fs.canonicalize? root := by
  have hwritten := h.fileWritten file
  cases hroot : (fs.place place (.file file)).isDirectory root with
  | false =>
    -- There is no such directory, before the file is written or after.
    have hbefore : fs.isDirectory root = false := hwritten.isDirectory_eq root ▸ hroot
    rw [children_of_not_isDirectory hroot, children_of_not_isDirectory hbefore]
    rfl
  | true =>
    have hsame := hwritten.canonicalize?_eq_of_directory hroot
    obtain ⟨here, hhere, hdirectory⟩ := Option.bind_eq_some_iff.mp (beq_iff_eq.mp hroot)
    have hlisted := children_of_directory hhere hdirectory
    have hbefore := children_of_directory (hsame.trans hhere)
      (hwritten.kept_before hdirectory (by simp))
    -- Entries are told apart as before, whatever the file is.
    have htest : (fun directory => (fs.place place (.file file)).isDirectory directory &&
          (fs.place place (.file file)).canonicalize? directory !=
            (fs.place place (.file file)).canonicalize? root) =
        fun directory =>
          fs.isDirectory directory && fs.canonicalize? directory != fs.canonicalize? root := by
      funext directory
      rw [hwritten.isDirectory_eq, hsame]
      cases hdirectory : (fs.place place (.file file)).isDirectory directory with
      | false => rfl
      | true => rw [hwritten.canonicalize?_eq_of_directory hdirectory]
    rw [hlisted, hbefore, htest]
    rcases fs.names_place place (.file file) here with hnames | ⟨name, hplace, hnames⟩
    · rw [hnames]
    · -- The new name is that of the file.
      have hfile : fs.isDirectory (Path.join root name) = false := by
        rw [hwritten.isDirectory_eq]
        exact hwritten.isDirectory_entry (h.entry here name hplace) hplace hhere hdirectory
      rw [hnames, List.map_append, List.filter_append, List.map_singleton,
        List.filter_cons_of_neg (by simp [hfile]), List.filter_nil, List.append_nil]

theorem homesOf_place (root : String) :
    homesOf (fs.place place (.file file)) root = homesOf fs root := by
  have hunder : homesUnder (fs.place place (.file file)) = homesUnder fs :=
    funext (homesUnder_place h file)
  rw [homesOf, homesOf, h.isValid_place, directories_place h file root, hunder]

theorem homeOfProgram?_place :
    homeOfProgram? (fs.place place (.file file)) env = homeOfProgram? fs env := by
  have hwritten := h.fileWritten file
  -- The program is looked for as `java`, and no such path leads to the place of the file.
  have hfound : (env.programDirectories.map (Path.join · "java")).find?
        (fs.place place (.file file)).isExecutable =
      (env.programDirectories.map (Path.join · "java")).find? fs.isExecutable := by
    rw [List.find?_map, List.find?_map]
    congr 2
    funext directory
    rw [Function.comp_apply, Function.comp_apply, isExecutable, isExecutable,
      hwritten.fileOf?_eq (h.program file directory)]
  rw [homeOfProgram?, homeOfProgram?, hfound]
  cases hprogram : (env.programDirectories.map (Path.join · "java")).find? fs.isExecutable with
  | none => rfl
  | some program =>
    obtain ⟨directory, -, rfl⟩ := List.mem_map.mp (List.mem_of_find?_eq_some hprogram)
    rw [Option.bind_eq_bind, Option.bind_eq_bind, Option.bind_some, Option.bind_some,
      hwritten.canonicalize?_eq (h.program file directory)]

/-- A scan meets the same homes. -/
theorem homes_place (scanner : Scanner) :
    scanner.homes (fs.place place (.file file)) env = scanner.homes fs env := by
  have hroots : homesOf (fs.place place (.file file)) = homesOf fs :=
    funext (homesOf_place h file)
  rw [homes, homes, hroots, environmentHomes, environmentHomes, homeOfProgram?_place h file env]

end Homes

/-! ## §4 Results -/

/-- It makes no difference to what is accepted whether a place has been met whose paths are never
accepted. -/
theorem filterMap_distinct {α : Type} {accept : String → Option α} {place : Location}
    {pairs : List (String × Location)} {met met' : List Location}
    (hmet : ∀ here ≠ place, (here ∈ met ↔ here ∈ met'))
    (hreject : ∀ pair ∈ pairs, pair.2 = place → accept pair.1 = none) :
    (distinct met pairs).filterMap accept =
      (distinct met' (pairs.filter (·.2 ≠ place))).filterMap accept := by
  -- The two lists of places that have been met may differ in the place itself and in no other.
  induction pairs generalizing met met' with
  | nil => rfl
  | cons pair rest ih =>
    obtain ⟨home, here⟩ := pair
    have hrest := fun pair hmem => hreject pair (List.mem_cons_of_mem _ hmem)
    by_cases hhere : here = place
    · have hnone : accept home = none := hreject _ List.mem_cons_self hhere
      rw [List.filter_cons_of_neg (by simpa using hhere), distinct]
      split
      · exact ih hmet hrest
      · rw [List.filterMap_cons_none hnone]
        refine ih (fun other hother => ?_) hrest
        rw [List.mem_cons, ← hmet other hother, or_iff_right]
        rintro rfl
        exact hother hhere
    · rw [List.filter_cons_of_pos (by simpa using hhere), distinct, distinct]
      simp only [List.contains_iff_mem, hmet here hhere]
      split
      · exact ih hmet hrest
      · have hmore : ∀ other ≠ place, (other ∈ here :: met ↔ other ∈ here :: met') := by
          intro other hother
          rw [List.mem_cons, List.mem_cons, hmet other hother]
        cases haccept : accept home with
        | none =>
          rw [List.filterMap_cons_none haccept, List.filterMap_cons_none haccept]
          exact ih hmore hrest
        | some a =>
          rw [List.filterMap_cons_some haccept, List.filterMap_cons_some haccept,
            ih hmore hrest]

section Results

variable {fs : FileSystem} {place : Location} (h : JdkHome.Outside fs place) (file : RegularFile)
include h

/-- No home is accepted whose path leads to the file. -/
theorem ofValid?_eq_none {home : String}
    (hhome : (fs.place place (.file file)).canonicalizeLong? home = some place) :
    Probe.ofValid? fs home = none := by
  rw [← Option.not_isSome_iff_eq_none, ← h.ofValid?_place file]
  intro haccepted
  obtain ⟨hvalid, -⟩ := Probe.isSome_ofValid?_iff.mp haccepted
  obtain ⟨here, hhere, hdirectory⟩ := JdkHome.exists_place_of_isValid hvalid
  obtain ⟨written, hfile⟩ := (h.fileWritten file).after
  rw [canonicalizeLong?_of_canonicalize? hhere] at hhome
  rw [Option.some.inj hhome, hfile] at hdirectory
  cases hdirectory

/-- All paths but those to the file lead where they led before. -/
theorem filter_places (homes : List String) :
    (homes.filterMap fun home =>
        ((fs.place place (.file file)).canonicalizeLong? home).map (home, ·)).filter
        (·.2 ≠ place) =
      (homes.filterMap fun home => (fs.canonicalizeLong? home).map (home, ·)).filter
        (·.2 ≠ place) := by
  have hwritten := h.fileWritten file
  rw [List.filter_filterMap, List.filter_filterMap]
  congr 1
  funext home
  apply Option.ext
  rintro ⟨first, here⟩
  -- On the pairs: a path that leads elsewhere is resolved as before.
  simp only [Option.filter_eq_some_iff, Option.map_eq_some_iff, Prod.mk.injEq, decide_eq_true_eq]
  constructor
  · rintro ⟨⟨_, hhere, rfl, rfl⟩, hother⟩
    exact ⟨⟨_, hwritten.canonicalizeLong?_of_after hhere hother, rfl, rfl⟩, hother⟩
  · rintro ⟨⟨_, hhere, rfl, rfl⟩, hother⟩
    exact ⟨⟨_, hwritten.canonicalizeLong?_of_before hhere, rfl, rfl⟩, hother⟩

/-- A scan finds the same JDKs. -/
theorem results_place (scanner : Scanner) (env : Environment) :
    scanner.results (fs.place place (.file file)) env = scanner.results fs env := by
  have hreject {fs' : FileSystem} (hleads : ∀ home, fs'.canonicalizeLong? home = some place →
        (fs.place place (.file file)).canonicalizeLong? home = some place) (homes : List String) :
      ∀ pair ∈ homes.filterMap fun home => (fs'.canonicalizeLong? home).map (home, ·),
        pair.2 = place → Probe.ofValid? fs pair.1 = none := by
    intro pair hpair hplace
    obtain ⟨home, -, hmet⟩ := List.mem_filterMap.mp hpair
    obtain ⟨here, hhere, rfl⟩ := Option.map_eq_some_iff.mp hmet
    dsimp only at hplace ⊢
    rw [hplace] at hhere
    exact ofValid?_eq_none h file (hleads home hhere)
  rw [results, results, homes_place h file env scanner, h.ofValid?_place, distinctHomes,
    distinctHomes]
  congr 1
  -- Paths to the file make no difference, since they are not accepted.
  rw [filterMap_distinct (fun _ _ => Iff.rfl) (hreject (fun _ hhome => hhome) _),
    filter_places h file,
    ← filterMap_distinct (fun _ _ => Iff.rfl)
      (hreject (fun _ hhome => (h.fileWritten file).canonicalizeLong?_of_before hhome) _)]

end Results

end Scanner

end JdkFinder
