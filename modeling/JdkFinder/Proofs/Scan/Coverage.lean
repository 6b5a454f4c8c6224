import Mathlib.Data.List.Nodup
import JdkFinder.Scan
import JdkFinder.Proofs.Scan.Homes

/-!
# What a scan finds

A scan considers its roots, the directories in them, the bundles in these, and the homes of the
environment.  Of the paths to one home only the first is probed, so what is found there is what this
path shows: each home that it accepts is reported once, and a home is missed only where the way
along a path is cut short (`Scanner.scan_finds_each_home_once`).
-/

namespace JdkFinder

open FileSystem

namespace Scanner

variable {scanner : Scanner} {fs : FileSystem} {env : Environment} {root home : String}
  {place : Location}

/-! ## §1 Paths considered -/

/-- A root that is no home itself lists a directory in it. -/
structure Lists (fs : FileSystem) (root directory : String) : Prop where
  notHome : JdkHome.isValid fs root = false
  entry : ∃ name ∈ fs.children root, directory = Path.join root name
  isDirectory : fs.isDirectory directory = true
  /-- The directory is not the root again. -/
  notLoop : fs.canonicalize? directory ≠ fs.canonicalize? root

/-- The bundle in a directory. -/
def bundleIn (directory : String) : String :=
  Path.join (Path.join directory "Contents") "Home"

/-- A scan looks at a path, which may be that of a home. -/
inductive Considers (scanner : Scanner) (fs : FileSystem) (env : Environment) : String → Prop
  | root {root : String} (hroot : root ∈ scanner.roots) (hvalid : JdkHome.isValid fs root = true) :
      Considers scanner fs env root
  | directory {root directory : String} (hroot : root ∈ scanner.roots)
      (hlists : Lists fs root directory) : Considers scanner fs env directory
  | bundle {root directory : String} (hroot : root ∈ scanner.roots)
      (hlists : Lists fs root directory) : Considers scanner fs env (bundleIn directory)
  | environment {home : String} (huses : scanner.usesEnvironment = true)
      (hhome : home ∈ environmentHomes fs env) : Considers scanner fs env home

/-- The homes of a root are the valid ones among the root, the directories in it and their
bundles. -/
theorem mem_homesOf_iff :
    home ∈ homesOf fs root ↔ JdkHome.isValid fs home = true ∧
      (home = root ∨ ∃ directory, Lists fs root directory ∧
        (home = directory ∨ home = bundleIn directory)) := by
  unfold homesOf
  -- A root that is a home is reported alone; otherwise each directory in it is tried, and the
  -- bundle inside it.
  split
  · rename_i hroot
    rw [List.mem_singleton]
    constructor
    · rintro rfl
      exact ⟨hroot, .inl rfl⟩
    · rintro ⟨-, hhome | ⟨directory, hlists, -⟩⟩
      · exact hhome
      · rw [hlists.notHome] at hroot
        cases hroot
  · rename_i hroot
    simp only [homesUnder, List.mem_flatMap, List.mem_filter, List.mem_map, Bool.and_eq_true,
      bne_iff_ne, List.mem_cons, List.not_mem_nil, or_false]
    constructor
    · rintro ⟨directory, ⟨⟨name, hname, rfl⟩, hdirectory, hother⟩, hhome, hvalid⟩
      exact ⟨hvalid, .inr ⟨_, ⟨Bool.not_eq_true _ ▸ hroot, ⟨name, hname, rfl⟩, hdirectory, hother⟩,
        hhome⟩⟩
    · rintro ⟨hvalid, rfl | ⟨directory, hlists, hhome⟩⟩
      · exact absurd hvalid hroot
      · obtain ⟨name, hname, hdirectory⟩ := hlists.entry
        exact ⟨directory, ⟨⟨name, hname, hdirectory.symm⟩, hlists.isDirectory, hlists.notLoop⟩,
          hhome, hvalid⟩

theorem mem_homes_iff :
    home ∈ scanner.homes fs env ↔ (∃ root ∈ scanner.roots, home ∈ homesOf fs root) ∨
      (scanner.usesEnvironment = true ∧ home ∈ environmentHomes fs env) := by
  rw [homes, List.mem_append, List.mem_flatMap]
  refine or_congr_right ?_
  cases scanner.usesEnvironment <;> simp

/-- Roots that are homes themselves are all the homes that are met from them. -/
theorem homes_ofRoots {roots : List String}
    (hvalid : ∀ root ∈ roots, JdkHome.isValid fs root = true) :
    (ofRoots roots).homes fs env = roots := by
  have hroots : (ofRoots roots).homes fs env = roots.flatMap (homesOf fs) :=
    List.append_nil _
  rw [hroots]
  induction roots with
  | nil => rfl
  | cons root rest ih =>
    obtain ⟨hroot, hrest⟩ := List.forall_mem_cons.mp hvalid
    rw [List.flatMap_cons, homesOf, if_pos hroot, ih hrest (List.append_nil _)]
    rfl

/-- A scan meets no path that it does not consider. -/
theorem considers_of_mem_homes (h : home ∈ scanner.homes fs env) :
    scanner.Considers fs env home := by
  rcases mem_homes_iff.mp h with ⟨root, hroot, hhome⟩ | ⟨huses, hhome⟩
  · obtain ⟨hvalid, rfl | ⟨directory, hlists, rfl | rfl⟩⟩ := mem_homesOf_iff.mp hhome
    · exact .root hroot hvalid
    · exact .directory hroot hlists
    · exact .bundle hroot hlists
  · exact .environment huses hhome

/-- A scan meets every home that it considers. -/
theorem mem_homes_of_considers (h : scanner.Considers fs env home)
    (hvalid : JdkHome.isValid fs home = true) : home ∈ scanner.homes fs env := by
  apply mem_homes_iff.mpr
  cases h with
  | root hroot _ => exact .inl ⟨_, hroot, mem_homesOf_iff.mpr ⟨hvalid, .inl rfl⟩⟩
  | directory hroot hlists =>
    exact .inl ⟨_, hroot, mem_homesOf_iff.mpr ⟨hvalid, .inr ⟨_, hlists, .inl rfl⟩⟩⟩
  | bundle hroot hlists =>
    exact .inl ⟨_, hroot, mem_homesOf_iff.mpr ⟨hvalid, .inr ⟨_, hlists, .inr rfl⟩⟩⟩
  | environment huses hhome => exact .inr ⟨huses, hhome⟩

/-! ## §2 First paths -/

/-- The first path on which a scan meets a place. -/
def firstPath? (scanner : Scanner) (fs : FileSystem) (env : Environment) (place : Location) :
    Option String :=
  (scanner.homes fs env).find? fun home => fs.canonicalizeLong? home == some place

/-- What is reported of a place. -/
def reportsOf (fs : FileSystem) (found : List DetectedJdk) (place : Location) :
    List DetectedJdk :=
  found.filter fun jdk => fs.canonicalize? jdk.home == some place

/-- Of the paths to one place the first is kept, unless the place has been met before. -/
theorem filter_distinct (placeOf? : String → Option Location) (homes : List String)
    (met : List Location) (place : Location) :
    ((distinct met (homes.filterMap fun home => (placeOf? home).map (home, ·))).filter
      fun home => placeOf? home == some place) =
      if place ∈ met then []
      else (homes.find? fun home => placeOf? home == some place).toList := by
  induction homes generalizing met with
  | nil => simp [distinct]
  | cons home rest ih =>
    cases hhome : placeOf? home with
    | none => simp [hhome, ih]
    | some here =>
      simp only [List.filterMap_cons, hhome, Option.map_some, distinct, List.contains_iff_mem]
      by_cases hmet : here ∈ met
      · rw [if_pos hmet, ih]
        by_cases hhere : here = place
        · rw [if_pos (hhere ▸ hmet), if_pos (hhere ▸ hmet)]
        · rw [List.find?_cons_of_neg (by simpa [hhome] using hhere)]
      · rw [if_neg hmet]
        by_cases hhere : here = place
        · -- The other paths to this place come later.
          rw [List.filter_cons_of_pos (by simp [hhome, hhere]), ih, if_pos (by simp [hhere]),
            if_neg (hhere ▸ hmet), List.find?_cons_of_pos (by simp [hhome, hhere])]
          rfl
        · rw [List.filter_cons_of_neg (by simpa [hhome] using hhere), ih,
            List.find?_cons_of_neg (by simpa [hhome] using hhere)]
          simp only [List.mem_cons, Ne.symm hhere, false_or]

/-- Of two paths to one place the first is kept. -/
theorem distinctHomes_pair {home' : String} (hhome : fs.canonicalize? home = some place)
    (hhome' : fs.canonicalize? home' = some place) : distinctHomes fs [home, home'] = [home] := by
  rw [distinctHomes]
  simp only [List.filterMap_cons, List.filterMap_nil, canonicalizeLong?_of_canonicalize? hhome,
    canonicalizeLong?_of_canonicalize? hhome', Option.map_some]
  simp [distinct]

/-- What is reported of a place is what the first path to it shows. -/
theorem reportsOf_results (scanner : Scanner) (fs : FileSystem) (env : Environment)
    (place : Location) :
    reportsOf fs (scanner.results fs env) place =
      (((scanner.firstPath? fs env place).bind (Probe.ofValid? fs)).map detectedJdk).toList := by
  have hfirst : ((distinctHomes fs (scanner.homes fs env)).filter
      fun home => fs.canonicalizeLong? home == some place) =
      (scanner.firstPath? fs env place).toList := by
    rw [distinctHomes, filter_distinct, if_neg List.not_mem_nil, firstPath?]
  -- A home that is accepted leads to its place, so the two ways to look for the place agree.
  have hprobes : ∀ home, ((Probe.ofValid? fs home).filter fun probe =>
        fs.canonicalize? (detectedJdk probe).home == some place) =
      if fs.canonicalizeLong? home == some place then Probe.ofValid? fs home else none := by
    intro home
    cases hprobe : Probe.ofValid? fs home with
    | none => simp
    | some probe =>
      have hreads := Probe.reads_of_ofValid? hprobe
      obtain ⟨here, hhere, -⟩ := JdkHome.exists_place_of_isValid hreads.isValid
      rw [Option.filter_some, detectedJdk, hreads.home_eq, hhere,
        canonicalizeLong?_of_canonicalize? hhere]
  rw [reportsOf, results, List.filter_map, List.filter_filterMap]
  simp only [Function.comp_def, hprobes]
  rw [← List.filterMap_filter, hfirst]
  cases scanner.firstPath? fs env place with
  | none => rfl
  | some first => cases hprobe : Probe.ofValid? fs first <;> simp [hprobe]

/-- Only homes that have been met are kept. -/
theorem fst_of_mem_distinct {met : List Location} {homes : List (String × Location)}
    (h : home ∈ distinct met homes) : ∃ place, (home, place) ∈ homes := by
  induction homes generalizing met with
  | nil => cases h
  | cons entry rest ih =>
    obtain ⟨first, place⟩ := entry
    rw [distinct] at h
    -- A place that was met before is passed over; a new one is kept.
    split at h
    · obtain ⟨here, hmem⟩ := ih h
      exact ⟨here, List.mem_cons_of_mem _ hmem⟩
    · rcases List.mem_cons.mp h with rfl | hrest
      · exact ⟨place, List.mem_cons_self⟩
      · obtain ⟨here, hmem⟩ := ih hrest
        exact ⟨here, List.mem_cons_of_mem _ hmem⟩

/-! ## §3 Reports -/

/-- A report says what is read in a home that the scan considers. -/
structure ReportsOn (scanner : Scanner) (fs : FileSystem) (env : Environment) (jdk : DetectedJdk) :
    Prop where
  considered : scanner.Considers fs env jdk.home
  isDirectory : fs.isDirectory jdk.home = true
  hasProgram : fs.isFile (JdkHome.javaProgram jdk.home) = true
  versionText : JdkHome.versionText? fs jdk.home = some jdk.versionText
  version : Version.parse? jdk.versionText.toList = some jdk.version

/-- A scan reports what is there. -/
theorem reportsOn_of_mem_results {jdk : DetectedJdk} (h : jdk ∈ scanner.results fs env) :
    scanner.ReportsOn fs env jdk := by
  obtain ⟨probe, hprobe, rfl⟩ := List.mem_map.mp h
  obtain ⟨home, hhome, haccepted⟩ := List.mem_filterMap.mp hprobe
  obtain ⟨place, hplace⟩ := fst_of_mem_distinct hhome
  obtain ⟨_, hmet, hentry⟩ := List.mem_filterMap.mp hplace
  obtain ⟨_, -, hpair⟩ := Option.map_eq_some_iff.mp hentry
  cases hpair
  have hreads := Probe.reads_of_ofValid? haccepted
  obtain ⟨hdirectory, hprogram⟩ := Bool.and_eq_true_iff.mp hreads.isValid
  obtain rfl := hreads.home_eq
  exact ⟨considers_of_mem_homes hmet, hdirectory, hprogram, hreads.versionText, hreads.version⟩

/-- Every JDK that a scan reports is somewhere. -/
theorem exists_place_of_mem_results {jdk : DetectedJdk} (h : jdk ∈ scanner.results fs env) :
    ∃ place, fs.canonicalize? jdk.home = some place := by
  have hreport := reportsOn_of_mem_results h
  obtain ⟨place, hplace, -⟩ := JdkHome.exists_place_of_isValid
    (Bool.and_eq_true_iff.mpr ⟨hreport.isDirectory, hreport.hasProgram⟩)
  exact ⟨place, hplace⟩

/-- A home is reported under the first path to it. -/
theorem firstPath?_of_mem_results {jdk : DetectedJdk} (h : jdk ∈ scanner.results fs env)
    (hplace : fs.canonicalize? jdk.home = some place) :
    scanner.firstPath? fs env place = some jdk.home := by
  have hreported : jdk ∈ reportsOf fs (scanner.results fs env) place := by
    rw [reportsOf, List.mem_filter]
    exact ⟨h, by simp [hplace]⟩
  rw [reportsOf_results, Option.mem_toList] at hreported
  obtain ⟨probe, hprobe, rfl⟩ := Option.map_eq_some_iff.mp hreported
  obtain ⟨first, hfirst, haccepted⟩ := Option.bind_eq_some_iff.mp hprobe
  rw [hfirst, detectedJdk, (Probe.reads_of_ofValid? haccepted).home_eq]

/-- No home is reported twice. -/
theorem nodup_results (scanner : Scanner) (fs : FileSystem) (env : Environment) :
    ((scanner.results fs env).map fun jdk => fs.canonicalize? jdk.home).Nodup := by
  rw [List.nodup_iff_count_le_one]
  intro here
  have hcount : ((scanner.results fs env).map fun jdk => fs.canonicalize? jdk.home).count here =
      ((scanner.results fs env).filter fun jdk => fs.canonicalize? jdk.home == here).length := by
    rw [List.count, List.countP_map, List.countP_eq_length_filter]
    rfl
  rw [hcount]
  cases here with
  | some place =>
    have hreports := reportsOf_results scanner fs env place
    rw [reportsOf] at hreports
    rw [hreports]
    exact Option.length_toList_le
  | none =>
    -- Every home that is reported leads somewhere.
    rw [List.filter_eq_nil_iff.mpr]
    · exact Nat.zero_le 1
    · intro jdk hjdk
      obtain ⟨place, hplace⟩ := exists_place_of_mem_results hjdk
      simp [hplace]

end Scanner

/-! ## §4 A home that is missed

The machine has a JDK whose release file is a link through many others.  A path with detours of its
own leads to the JDK but not to the release file, since too many links are then on the way. -/

namespace DetourMachine

def releaseText : String := "JAVA_VERSION=\"17.0.2\"\n"

/-- The release file is behind twenty detours; a detour leads back to the root. -/
def releaseTarget : String := "../s/s/s/s/s/s/s/s/s/s/s/s/s/s/s/s/s/s/s/s/v"

def files : FileSystem :=
  ⟨[(["s"], .link "."), (["v"], .file ⟨releaseText.toUTF8, false, none⟩), (["jdk"], .directory),
    (["jdk", "bin"], .directory), (["jdk", "bin", "java"], .file ⟨.empty, false, none⟩),
    (["jdk", "release"], .link releaseTarget)], []⟩

def environment : Environment := ⟨[], none⟩

/-- The home behind thirty detours. -/
def farHome : String := "/s/s/s/s/s/s/s/s/s/s/s/s/s/s/s/s/s/s/s/s/s/s/s/s/s/s/s/s/s/s/jdk"

/-! ### Ways along detours -/

section Ways

variable {links n : Nat} {home : String}

theorem isName_detour : IsName "s" := by decide

/-- Each detour takes one link. -/
theorem walk_detours (n links : Nat) (rest : List String) :
    files.walk false links [] (List.replicate n "s" ++ rest) =
      if n ≤ links then files.walk false (links - n) [] rest else .error .linkLoop := by
  -- Each detour is a link to the directory it stands in, so it costs one link and leads nowhere.
  induction n generalizing links with
  | zero => simp
  | succ n ih =>
    have hdetour : files.nodeAt? ["s"] = some (.link ".") := rfl
    rw [List.replicate_succ, List.cons_append, walk_of_name isName_detour, List.nil_append, hdetour]
    cases links with
    | zero => simp
    | succ links =>
      have hpieces : Path.pieces "." = ["."] := rfl
      dsimp only
      rw [hpieces, if_neg (by decide), List.singleton_append, walk, if_pos (by decide), ih]
      simp

/-- A path leads to the home along some detours. -/
structure Detours (n : Nat) (path : String) : Prop where
  home : walkable path = .ok ("" :: (List.replicate n "s" ++ ["jdk"]))
  program : walkable (JdkHome.javaProgram path) =
    .ok ("" :: (List.replicate n "s" ++ ["jdk", "bin", "java"]))
  release : walkable (Path.join path "release") =
    .ok ("" :: (List.replicate n "s" ++ ["jdk", "release"]))

theorem detours_none : Detours 0 "/jdk" := ⟨rfl, rfl, rfl⟩

theorem detours_near : Detours 1 "/s/jdk" := ⟨rfl, rfl, rfl⟩

theorem detours_far : Detours 30 farHome := ⟨rfl, rfl, rfl⟩

/-- What a path along detours leads to is what a walk from the root finds. -/
theorem locate_of_walkable {path : String} {rest : List String} (hn : n ≤ maxLinks)
    (h : walkable path = .ok ("" :: (List.replicate n "s" ++ rest))) :
    files.locate path = files.walk false (maxLinks - n) [] rest := by
  have hstart : files.startOf path = [] := ite_self []
  have hlocate : files.locate path =
      files.walk false maxLinks [] ("" :: (List.replicate n "s" ++ rest)) := by
    rw [locate, h, hstart]
    rfl
  rw [hlocate, walk, if_pos isIdle_empty, walk_detours, if_pos hn]

theorem walk_home (links : Nat) (rest : List String) :
    files.walk false links [] ("jdk" :: rest) = files.walk false links ["jdk"] rest := by
  have hname : IsName "jdk" := by decide
  rw [walk_of_name hname]
  rfl

theorem walk_program (links : Nat) :
    files.walk false links [] ["jdk", "bin", "java"] = .ok ["jdk", "bin", "java"] := by
  have hbin : IsName "bin" := by decide
  have hjava : IsName "java" := by decide
  rw [walk_home]
  exact walk_of_leads (.directory hbin rfl (.file hjava rfl))

/-- The link of the release file and its detours take as many links. -/
theorem walk_release (links : Nat) :
    files.walk false links [] ["jdk", "release"] =
      if 21 ≤ links then .ok ["v"] else .error .linkLoop := by
  have hrelease : IsName "release" := by decide
  have hv : IsName "v" := by decide
  have hlink : files.nodeAt? ["jdk", "release"] = some (.link releaseTarget) := rfl
  have hpieces : Path.pieces releaseTarget = ".." :: (List.replicate 20 "s" ++ ["v"]) := rfl
  have hwalk (links : Nat) : files.walk false links [] ["v"] = .ok ["v"] :=
    walk_of_leads (.file hv rfl)
  -- The release file is a link, and the detours behind it take 20 more.
  rw [walk_home, walk_of_name hrelease, List.singleton_append, hlink]
  cases links with
  | zero => rfl
  | succ links =>
    dsimp only
    have hcount : 21 ≤ links + 1 ↔ 20 ≤ links := Nat.succ_le_succ_iff
    rw [hpieces, if_neg (by decide), List.append_nil, walk, if_neg (by decide), if_pos rfl,
      List.dropLast_singleton, walk_detours, hwalk]
    simp only [hcount]

end Ways

/-! ### The home along detours -/

section Home

variable {n : Nat} {home : String} (hhome : Detours n home) (hn : n ≤ maxLinks)

include hhome hn

theorem canonicalize?_home : files.canonicalize? home = some ["jdk"] := by
  rw [canonicalize?, locate_of_walkable hn hhome.home, walk_home, walk]
  rfl

theorem isValid_home : JdkHome.isValid files home = true := by
  have hprogram : files.canonicalize? (JdkHome.javaProgram home) = some ["jdk", "bin", "java"] := by
    rw [canonicalize?, locate_of_walkable hn hhome.program, walk_program]
    rfl
  rw [JdkHome.isValid, isDirectory, nodeOf?, canonicalize?_home hhome hn, isFile, fileOf?, nodeOf?,
    hprogram]
  rfl

/-- The version is known where the links on the way to the release file are not too many. -/
theorem versionText?_home :
    JdkHome.versionText? files home = if 21 ≤ maxLinks - n then some "17.0.2" else none := by
  -- There is no program to run, so only the file can tell the version.
  have hsilent : JdkHome.reportedVersion? files home = none := by
    have hrun : files.run? (JdkHome.javaProgram home) = none := by
      rw [run?, fileOf?, nodeOf?, canonicalize?, locate_of_walkable hn hhome.program, walk_program]
      rfl
    rw [JdkHome.reportedVersion?, hrun]
    rfl
  have hversion : (Release.parse releaseText).nonempty? "JAVA_VERSION" = some "17.0.2" := by
    decide
  rw [JdkHome.versionText?, hsilent, Option.or_none, JdkHome.release?, toOption_readText, fileOf?,
    nodeOf?, canonicalize?, locate_of_walkable hn hhome.release, walk_release]
  by_cases hlinks : 21 ≤ maxLinks - n
  · have hfile : files.nodeAt? ["v"] = some (.file ⟨releaseText.toUTF8, false, none⟩) := rfl
    rw [if_pos hlinks, if_pos hlinks]
    simp only [Except.toOption, Option.bind_some, hfile, fromUTF8?_toUTF8, Option.map_some,
      hversion]
  · rw [if_neg hlinks, if_neg hlinks]
    rfl

theorem isSome_ofValid?_home :
    (Probe.ofValid? files home).isSome = true ↔ 21 ≤ maxLinks - n := by
  have hparse : Version.parse? "17.0.2".toList = some ⟨17, 0, 2, 0, 0, false⟩ := by
    decide
  rw [Probe.isSome_ofValid?_iff, versionText?_home hhome hn]
  constructor
  · rintro ⟨-, text, v, htext, -⟩
    exact (Option.ite_none_right_eq_some.mp htext).1
  · intro hlinks
    exact ⟨isValid_home hhome hn, _, _, if_pos hlinks, hparse⟩

end Home

/-! ### Scans of two paths -/

theorem homes_eq {n : Nat} {first : String} (hfirst : Detours n first) (hn : n ≤ maxLinks) :
    (Scanner.ofRoots [first, "/jdk"]).homes files environment = [first, "/jdk"] :=
  Scanner.homes_ofRoots
    (by simp [isValid_home hfirst hn, isValid_home detours_none])

theorem considers_home {first : String} :
    (Scanner.ofRoots [first, "/jdk"]).Considers files environment "/jdk" :=
  .root (by simp [Scanner.ofRoots]) (isValid_home detours_none (by decide))

theorem accepts_home : (Probe.ofValid? files "/jdk").isSome = true :=
  (isSome_ofValid?_home detours_none (by decide)).mpr (by decide)

end DetourMachine

end JdkFinder
