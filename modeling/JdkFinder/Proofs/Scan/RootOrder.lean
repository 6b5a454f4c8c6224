import JdkFinder.Proofs.Matching.Selection
import JdkFinder.Proofs.Scan.Coverage

/-!
# The order of the roots

The roots of a scan in another order lead to the same homes, but a home under several paths may be
met by another of them first.  Its version is the same all the same, as long as the way to its
release file is cut short along none of the paths.  Its vendor is the same too if the release file
names one; else it is what the path hints at, and the order of the roots decides which path that is
(`Scanner.scan_in_any_order`).
-/

namespace JdkFinder

open FileSystem

/-! ## §1 What a home shows on different paths -/

namespace Probe

variable {fs : FileSystem} {home home' : String} {place : Location} {probe : Probe}

/-- The vendor that the release file of a home names. -/
def statedVendor? (fs : FileSystem) (home : String) : Option Vendor :=
  (JdkHome.implementor? fs home).bind fun text => Vendor.detect? text.toList

/-- The vendor that the path of a home hints at, or else its version text. -/
def hintedVendor? (home versionText : String) : Option Vendor :=
  (Vendor.detect? home.toList).or (Vendor.detect? versionText.toList)

theorem vendor?_eq_or (fs : FileSystem) (home text : String) :
    vendor? fs home text = (statedVendor? fs home).or (hintedVendor? home text) :=
  Option.or_assoc

/-- A home with a program is within reach if its release file is. -/
theorem withinReach_of_isValid (hvalid : JdkHome.isValid fs home = true)
    (hrelease : ¬ fs.CutShort (Path.join home "release")) : JdkHome.WithinReach fs home where
  program := by
    obtain ⟨-, hprogram⟩ := Bool.and_eq_true_iff.mp hvalid
    rintro (hcut | hcut)
    all_goals
      rw [isFile, fileOf?, nodeOf?, canonicalize?, hcut] at hprogram
      cases hprogram
  release := hrelease

/-- What is read in a home is the same on all paths to it, but for the hints. -/
theorem exists_ofValid?_of_alias (hprobe : ofValid? fs home = some probe)
    (hhome : fs.canonicalize? home = some place) (hhome' : fs.canonicalize? home' = some place)
    (hreach : JdkHome.WithinReach fs home) (hreach' : JdkHome.WithinReach fs home') :
    ∃ probe', ofValid? fs home' = some probe' ∧ probe'.versionText = probe.versionText ∧
      probe'.version = probe.version ∧ statedVendor? fs home' = statedVendor? fs home := by
  have haccepted : (ofValid? fs home).isSome = true := by
    rw [hprobe]
    rfl
  obtain ⟨probe', hprobe'⟩ := Option.isSome_iff_exists.mp
    (isSome_ofValid?_of_alias haccepted hhome hhome' hreach hreach')
  have hreads := reads_of_ofValid? hprobe
  have hreads' := reads_of_ofValid? hprobe'
  obtain ⟨_, hsame, hdirectory⟩ := JdkHome.exists_place_of_isValid hreads.isValid
  cases hhome.symm.trans hsame
  -- Both paths read the same release file and run the same program.
  have htext : probe'.versionText = probe.versionText := by
    apply Option.some.inj
    rw [← hreads.versionText, ← hreads'.versionText,
      JdkHome.versionText?_of_alias hhome hhome' hdirectory hreach hreach']
  refine ⟨probe', hprobe', htext, ?_, ?_⟩
  · apply Option.some.inj
    rw [← hreads.version, ← hreads'.version, htext]
  · rw [statedVendor?, statedVendor?, JdkHome.implementor?, JdkHome.implementor?,
      JdkHome.release?_of_alias hhome hhome' hdirectory hreach hreach']

end Probe

namespace Scanner

variable {fs : FileSystem} {env : Environment} {roots roots' : List String} {place : Location}
  {first : String}

/-! ## §2 Homes of the same roots -/

theorem isValid_of_mem_homes {home : String} (h : home ∈ (ofRoots roots).homes fs env) :
    JdkHome.isValid fs home = true := by
  rcases mem_homes_iff.mp h with ⟨root, -, hhome⟩ | ⟨huses, -⟩
  · exact (mem_homesOf_iff.mp hhome).1
  · cases huses

theorem mem_homes_of_same_roots {home : String} (hsame : ∀ root, root ∈ roots → root ∈ roots')
    (h : home ∈ (ofRoots roots).homes fs env) : home ∈ (ofRoots roots').homes fs env := by
  rcases mem_homes_iff.mp h with ⟨root, hroot, hhome⟩ | ⟨huses, -⟩
  · exact mem_homes_iff.mpr (.inl ⟨root, hsame root hroot, hhome⟩)
  · cases huses

/-- The first path to a place is that of a home there. -/
theorem canonicalize?_of_firstPath? (h : (ofRoots roots).firstPath? fs env place = some first) :
    first ∈ (ofRoots roots).homes fs env ∧ fs.canonicalize? first = some place := by
  have hmem := List.mem_of_find?_eq_some h
  have hlong : fs.canonicalizeLong? first = some place := by
    simpa using List.find?_some h
  obtain ⟨here, hhere, -⟩ := JdkHome.exists_place_of_isValid (isValid_of_mem_homes hmem)
  rw [canonicalizeLong?_of_canonicalize? hhere] at hlong
  exact ⟨hmem, hhere.trans hlong⟩

/-- A place that is met from some roots is met from the same roots in another order. -/
theorem exists_firstPath?_of_same_roots (hsame : ∀ root, root ∈ roots → root ∈ roots')
    (h : (ofRoots roots).firstPath? fs env place = some first) :
    ∃ first', (ofRoots roots').firstPath? fs env place = some first' := by
  obtain ⟨hmem, hplace⟩ := canonicalize?_of_firstPath? h
  rw [← Option.isSome_iff_exists, firstPath?, List.find?_isSome]
  exact ⟨first, mem_homes_of_same_roots hsame hmem,
    by simp [canonicalizeLong?_of_canonicalize? hplace]⟩

/-- Along no path on which a scan meets a place is the way to the release file cut short. -/
def ReachesRelease (scanner : Scanner) (fs : FileSystem) (env : Environment) (place : Location) :
    Prop :=
  ∀ home ∈ scanner.homes fs env, fs.canonicalize? home = some place →
    ¬ fs.CutShort (Path.join home "release")

/-! ## §3 Reports on the same place -/

/-- Two reports on the same home, which agree on its vendor if the release file names it or if the
paths hint at the same one. -/
structure SameHome (fs : FileSystem) (jdk jdk' : DetectedJdk) : Prop where
  place : fs.canonicalize? jdk.home = fs.canonicalize? jdk'.home
  versionText : jdk.versionText = jdk'.versionText
  version : jdk.version = jdk'.version
  stated : Probe.statedVendor? fs jdk.home = Probe.statedVendor? fs jdk'.home
  vendor_iff : jdk.vendor = jdk'.vendor ↔
    (Probe.statedVendor? fs jdk.home).isSome = true ∨
      Probe.hintedVendor? jdk.home jdk.versionText = Probe.hintedVendor? jdk'.home jdk'.versionText

/-- Two scans agree on a place: neither reports it, or each reports it once. -/
inductive AgreeOn (fs : FileSystem) (found found' : List DetectedJdk) (place : Location) : Prop
  | missing (hnone : reportsOf fs found place = []) (hnone' : reportsOf fs found' place = [])
  | reported {jdk jdk' : DetectedJdk} (hjdk : reportsOf fs found place = [jdk])
      (hjdk' : reportsOf fs found' place = [jdk']) (same : SameHome fs jdk jdk')

theorem SameHome.symm {jdk jdk' : DetectedJdk} (h : SameHome fs jdk jdk') :
    SameHome fs jdk' jdk where
  place := h.place.symm
  versionText := h.versionText.symm
  version := h.version.symm
  stated := h.stated.symm
  vendor_iff := by
    rw [eq_comm, h.vendor_iff, h.stated]
    exact or_congr_right eq_comm

theorem AgreeOn.symm {found found' : List DetectedJdk} (h : AgreeOn fs found found' place) :
    AgreeOn fs found' found place := by
  cases h with
  | missing hnone hnone' => exact .missing hnone' hnone
  | reported hjdk hjdk' same => exact .reported hjdk' hjdk same.symm

theorem or_eq_or_iff {α : Type} {x y z : Option α} :
    x.or y = x.or z ↔ x.isSome = true ∨ y = z := by
  cases x <;> simp

/-- Two paths to a home show the same but for the hints. -/
theorem sameHome_of_alias {home home' : String} {probe : Probe}
    (hprobe : Probe.ofValid? fs home = some probe)
    (hhome : fs.canonicalize? home = some place) (hhome' : fs.canonicalize? home' = some place)
    (hreach : JdkHome.WithinReach fs home) (hreach' : JdkHome.WithinReach fs home') :
    ∃ probe', Probe.ofValid? fs home' = some probe' ∧
      SameHome fs (detectedJdk probe) (detectedJdk probe') := by
  obtain ⟨probe', hprobe', htext, hversion, hstated⟩ :=
    Probe.exists_ofValid?_of_alias hprobe hhome hhome' hreach hreach'
  have hreads := Probe.reads_of_ofValid? hprobe
  have hreads' := Probe.reads_of_ofValid? hprobe'
  obtain rfl := hreads.home_eq
  obtain rfl := hreads'.home_eq
  refine ⟨probe', hprobe', hhome.trans hhome'.symm, htext.symm, hversion.symm, hstated.symm, ?_⟩
  show probe.vendor = probe'.vendor ↔ _
  rw [hreads.vendor, hreads'.vendor, Probe.vendor?_eq_or, Probe.vendor?_eq_or, hstated,
    or_eq_or_iff]
  rfl

/-- Scans of the same roots agree on every place whose release file is within reach. -/
theorem agreeOn_of_same_roots (hsame : ∀ root, root ∈ roots ↔ root ∈ roots')
    (hreach : (ofRoots roots).ReachesRelease fs env place) :
    AgreeOn fs ((ofRoots roots).results fs env) ((ofRoots roots').results fs env) place := by
  have hreports := reportsOf_results (ofRoots roots) fs env place
  have hreports' := reportsOf_results (ofRoots roots') fs env place
  -- Either no path of the scan leads to the place, or a first one does, in both orders.
  cases hfirst : (ofRoots roots).firstPath? fs env place with
  | none =>
    have hfirst' : (ofRoots roots').firstPath? fs env place = none := by
      by_contra hsome
      obtain ⟨first', hfirst'⟩ := Option.ne_none_iff_exists'.mp hsome
      obtain ⟨first, hback⟩ :=
        exists_firstPath?_of_same_roots (fun root => (hsame root).mpr) hfirst'
      rw [hfirst] at hback
      cases hback
    rw [hfirst] at hreports
    rw [hfirst'] at hreports'
    exact .missing hreports hreports'
  | some first =>
    obtain ⟨first', hfirst'⟩ :=
      exists_firstPath?_of_same_roots (fun root => (hsame root).mp) hfirst
    obtain ⟨hmem, hplace⟩ := canonicalize?_of_firstPath? hfirst
    obtain ⟨hmem', hplace'⟩ := canonicalize?_of_firstPath? hfirst'
    have hback := mem_homes_of_same_roots (fun root => (hsame root).mpr) hmem'
    have hwithin : JdkHome.WithinReach fs first :=
      Probe.withinReach_of_isValid (isValid_of_mem_homes hmem) (hreach first hmem hplace)
    have hwithin' : JdkHome.WithinReach fs first' :=
      Probe.withinReach_of_isValid (isValid_of_mem_homes hmem') (hreach first' hback hplace')
    rw [hfirst, Option.bind_some] at hreports
    rw [hfirst', Option.bind_some] at hreports'
    -- The first paths may differ, but they are accepted or rejected together.
    cases hprobe : Probe.ofValid? fs first with
    | none =>
      have hprobe' : Probe.ofValid? fs first' = none := by
        by_contra hsome
        obtain ⟨probe', hprobe'⟩ := Option.ne_none_iff_exists'.mp hsome
        obtain ⟨probe, hfound, -⟩ := sameHome_of_alias hprobe' hplace' hplace hwithin' hwithin
        rw [hprobe] at hfound
        cases hfound
      rw [hprobe] at hreports
      rw [hprobe'] at hreports'
      exact .missing hreports hreports'
    | some probe =>
      obtain ⟨probe', hprobe', hhome⟩ := sameHome_of_alias hprobe hplace hplace' hwithin hwithin'
      rw [hprobe] at hreports
      rw [hprobe'] at hreports'
      exact .reported hreports hreports' hhome

/-! ## §4 Two scans -/

/-- What a scan tells about the place, the version and the vendor of a JDK. -/
def keyOf (fs : FileSystem) (jdk : DetectedJdk) : Option Location × Version × Option Vendor :=
  (fs.canonicalize? jdk.home, jdk.version, jdk.vendor)

/-- Every home in the first list is in the second one too. -/
def Covers (fs : FileSystem) (found found' : List DetectedJdk) : Prop :=
  ∀ jdk ∈ found, ∃ jdk' ∈ found', SameHome fs jdk jdk'

section Pools

variable {found found' : List DetectedJdk} {r : Requirement}

/-- What is reported by one scan is reported by another one that agrees with it. -/
theorem covers_of_agreeOn (hagree : ∀ place, AgreeOn fs found found' place)
    (hplaces : ∀ jdk ∈ found, ∃ place, fs.canonicalize? jdk.home = some place) :
    Covers fs found found' := by
  intro jdk hjdk
  obtain ⟨place, hplace⟩ := hplaces jdk hjdk
  have hreported : jdk ∈ reportsOf fs found place := by
    rw [reportsOf, List.mem_filter]
    exact ⟨hjdk, by simp [hplace]⟩
  cases hagree place with
  | missing hnone =>
    rw [hnone] at hreported
    cases hreported
  | reported honly honly' hsame =>
    rw [honly, List.mem_singleton] at hreported
    subst hreported
    have hmem : _ ∈ reportsOf fs found' place := honly' ▸ List.mem_singleton_self _
    exact ⟨_, (List.mem_filter.mp hmem).1, hsame⟩

/-- A requirement that declines the second list declines the first one, if the vendors that the two
tell of a home will do alike. -/
theorem Covers.declines (h : Covers fs found found')
    (hvendors : ∀ jdk ∈ found, ∀ jdk' ∈ found', SameHome fs jdk jdk' →
      r.acceptsVendor jdk.vendor = r.acceptsVendor jdk'.vendor)
    (hdeclines : r.Declines found') : r.Declines found := by
  intro jdk hjdk v heligible
  obtain ⟨jdk', hjdk', hsame⟩ := h jdk hjdk
  refine hdeclines jdk' hjdk' v ⟨rfl, ?_, heligible.acceptsVersion, ?_⟩
  · rw [← heligible.version]
    exact congrArg some hsame.version.symm
  · exact (hvendors jdk hjdk jdk' hjdk' hsame).symm.trans heligible.acceptsVendor

/-- Where each of two scans covers the other, a requirement that has no eye for what their vendors
differ in is met by both or by neither. -/
theorem Covers.meets_iff (h : Covers fs found found') (h' : Covers fs found' found)
    (hvendors : ∀ jdk ∈ found, ∀ jdk' ∈ found', SameHome fs jdk jdk' →
      r.acceptsVendor jdk.vendor = r.acceptsVendor jdk'.vendor) :
    r.bestMatch? found = none ↔ r.bestMatch? found' = none := by
  rw [Requirement.bestMatch?_eq_none_iff, Requirement.bestMatch?_eq_none_iff]
  constructor
  · exact h'.declines fun jdk' hjdk' jdk hjdk hsame =>
      (hvendors jdk hjdk jdk' hjdk' hsame.symm).symm
  · exact h.declines hvendors

theorem Covers.mem_keys (h : Covers fs found found')
    (hvendors : ∀ jdk ∈ found, ∀ jdk' ∈ found', SameHome fs jdk jdk' → jdk.vendor = jdk'.vendor)
    {key : Option Location × Version × Option Vendor} (hkey : key ∈ found.map (keyOf fs)) :
    key ∈ found'.map (keyOf fs) := by
  obtain ⟨jdk, hjdk, rfl⟩ := List.mem_map.mp hkey
  obtain ⟨jdk', hjdk', hsame⟩ := h jdk hjdk
  refine List.mem_map.mpr ⟨jdk', hjdk', ?_⟩
  rw [keyOf, keyOf, hsame.place, hsame.version, hvendors jdk hjdk jdk' hjdk' hsame]

end Pools

theorem scan_uncancelled (scanner : Scanner) (fs : FileSystem) (env : Environment) :
    scanner.scan fs env (fun _ => false) = .ok (scanner.results fs env) := by
  rw [scan, if_neg (by simp)]

end Scanner

/-! ## §5 A home under two names

The machine has a JDK whose release file names no vendor, and a link to it whose name does. -/

namespace AliasMachine

open DetourMachine (releaseText environment)

def files : FileSystem :=
  ⟨[(["jdk"], .directory), (["jdk", "bin"], .directory),
    (["jdk", "bin", "java"], .file ⟨.empty, false, none⟩),
    (["jdk", "release"], .file ⟨releaseText.toUTF8, false, none⟩), (["temurin"], .link "jdk")], []⟩

def version : Version := ⟨17, 0, 2, 0, 0, false⟩

/-- A name in the root that leads to the home. -/
structure IsAlias (name path : String) : Prop where
  leads : ∀ rest here, (∀ links, Leads files false links ["jdk"] rest here) →
    Leads files false maxLinks [] (name :: rest) here
  home : walkable path = .ok ["", name]
  program : walkable (JdkHome.javaProgram path) = .ok ["", name, "bin", "java"]
  release : walkable (Path.join path "release") = .ok ["", name, "release"]

theorem isAlias_jdk : IsAlias "jdk" "/jdk" where
  leads _ _ hrest := .directory (by decide) rfl (hrest _)
  home := rfl
  program := rfl
  release := rfl

theorem isAlias_temurin : IsAlias "temurin" "/temurin" where
  leads _ _ hrest := .link (by decide) rfl (.directory (by decide) rfl (hrest _))
  home := rfl
  program := rfl
  release := rfl

section Alias

variable {name path : String} (halias : IsAlias name path)

include halias

theorem locate_eq {longer : String} {rest : List String} {here : Location}
    (hwalkable : walkable longer = .ok ("" :: name :: rest))
    (hrest : ∀ links, Leads files false links ["jdk"] rest here) :
    files.locate longer = .ok here := by
  have hstart : files.startOf longer = [] := ite_self []
  refine locate_eq_ok_iff.mpr ⟨_, hwalkable, ?_⟩
  rw [hstart]
  exact .idle isIdle_empty (halias.leads rest here hrest)

theorem canonicalize?_home : files.canonicalize? path = some ["jdk"] := by
  rw [canonicalize?, locate_eq halias halias.home fun _ => .done]
  rfl

theorem locate_program :
    files.locate (JdkHome.javaProgram path) = .ok ["jdk", "bin", "java"] :=
  locate_eq halias halias.program fun _ => .directory (by decide) rfl (.file (by decide) rfl)

theorem locate_release : files.locate (Path.join path "release") = .ok ["jdk", "release"] :=
  locate_eq halias halias.release fun _ => .file (by decide) rfl

theorem isValid_home : JdkHome.isValid files path = true := by
  rw [JdkHome.isValid, isDirectory, nodeOf?, canonicalize?_home halias, isFile, fileOf?, nodeOf?,
    canonicalize?, locate_program halias]
  rfl

theorem release?_home : JdkHome.release? files path = some [("JAVA_VERSION", "17.0.2")] := by
  have hfile : files.nodeAt? ["jdk", "release"] =
      some (.file ⟨releaseText.toUTF8, false, none⟩) := rfl
  have hentries : Release.parse releaseText = [("JAVA_VERSION", "17.0.2")] := by decide
  rw [JdkHome.release?, toOption_readText, fileOf?, nodeOf?, canonicalize?, locate_release halias]
  simp only [Except.toOption, Option.bind_some, hfile, fromUTF8?_toUTF8, Option.map_some, hentries]

/-- The vendor is the one that the path hints at. -/
theorem exists_probe : ∃ probe, Probe.ofValid? files path = some probe ∧ probe.home = path ∧
    probe.version = version ∧ probe.vendor = Vendor.detect? path.toList := by
  have htext : JdkHome.versionText? files path = some "17.0.2" := by
    rw [JdkHome.versionText?, release?_home halias]
    rfl
  have hparse : Version.parse? "17.0.2".toList = some version := by decide
  obtain ⟨probe, hprobe⟩ := Option.isSome_iff_exists.mp
    (Probe.isSome_ofValid?_iff.mpr ⟨isValid_home halias, _, _, htext, hparse⟩)
  have hreads := Probe.reads_of_ofValid? hprobe
  have hsame : probe.versionText = "17.0.2" :=
    Option.some.inj (hreads.versionText.symm.trans htext)
  refine ⟨probe, hprobe, hreads.home_eq, ?_, ?_⟩
  · have hversion := hreads.version
    rw [hsame, hparse] at hversion
    exact (Option.some.inj hversion).symm
  · -- Neither the file nor the version text names a vendor, so the path decides.
    have hstated : Probe.statedVendor? files path = none := by
      rw [Probe.statedVendor?, JdkHome.implementor?, release?_home halias]
      rfl
    have hsilent : Vendor.detect? "17.0.2".toList = none := by decide
    rw [hreads.vendor, hsame, Probe.vendor?_eq_or, hstated, Probe.hintedVendor?, hsilent,
      Option.none_or, Option.or_none]

theorem not_cutShort_release : ¬ files.CutShort (Path.join path "release") := by
  rw [CutShort, locate_release halias]
  rintro (h | h) <;> cases h

end Alias

/-! ### Scans of the two names -/

section Scans

variable {name name' path path' : String} (halias : IsAlias name path)
  (halias' : IsAlias name' path')

include halias halias'

theorem homes_eq : (Scanner.ofRoots [path, path']).homes files environment = [path, path'] :=
  Scanner.homes_ofRoots (by simp [isValid_home halias, isValid_home halias'])

/-- The home is reported under the first of its names. -/
theorem exists_results_eq : ∃ jdk,
    (Scanner.ofRoots [path, path']).results files environment = [jdk] ∧ jdk.home = path ∧
      jdk.version = version ∧ jdk.vendor = Vendor.detect? path.toList := by
  obtain ⟨probe, hprobe, hhome, hversion, hvendor⟩ := exists_probe halias
  have hdistinct : Scanner.distinctHomes files [path, path'] = [path] :=
    Scanner.distinctHomes_pair (canonicalize?_home halias) (canonicalize?_home halias')
  refine ⟨Scanner.detectedJdk probe, ?_, hhome, hversion, hvendor⟩
  rw [Scanner.results, homes_eq halias halias', hdistinct, List.filterMap_cons_some hprobe]
  rfl

theorem reachesRelease (place : Location) :
    (Scanner.ofRoots [path, path']).ReachesRelease files environment place := by
  intro home hhome _
  rw [homes_eq halias halias'] at hhome
  rcases List.mem_pair.mp hhome with rfl | rfl
  · exact not_cutShort_release halias
  · exact not_cutShort_release halias'

end Scans

/-- What is asked for by the name `temurin-17`. -/
def requirement : Requirement := ⟨.major 17, some .temurin⟩

end AliasMachine

end JdkFinder
