import JdkFinder.Proofs.Configuration.Storage
import JdkFinder.Proofs.Execution.Resolution
import JdkFinder.Proofs.Execution.Row

/-!
# A registration closes the loop

A JDK that a resolution has found on the machine and registered is what the next resolution
proposes, now as a registered one (`Command.proposes_what_was_registered`).
-/

namespace JdkFinder

open FileSystem

/-! ## §1 What a registration has done -/

/-- A JDK that a scan has found is what is known of some home. -/
theorem Scanner.exists_of_mem_results {scanner : Scanner} {fs : FileSystem} {env : Environment}
    {jdk : DetectedJdk} (h : jdk ∈ scanner.results fs env) :
    ∃ probe, Probe.ofValid? fs jdk.home = some probe ∧ jdk = detectedJdk probe := by
  obtain ⟨probe, hprobe, rfl⟩ := List.mem_map.mp h
  obtain ⟨home, -, hfound⟩ := List.mem_filterMap.mp hprobe
  have hhome := (Probe.reads_of_ofValid? hfound).home_eq
  refine ⟨probe, ?_, rfl⟩
  rw [← hhome] at hfound
  exact hfound

namespace Command

variable {config : Configuration} {s : Surroundings} {sdk : UnknownSdk} {offline : Bool}
  {w w' : Workspace} {fix : LocalFix} {style : ReportStyle}

/-- The settings with the row of a JDK. -/
def withRegistration (config : Configuration) (fix : LocalFix) : Configuration :=
  { config with registrations := Registry.register config.registrations (registrationOf fix) }

/-- A resolution that succeeds knows where JDKs are installed. -/
theorem installRoot_of_resolved (hjava : sdk.kind = .java) {listAll registers : Bool}
    (h : (resolveSdk config s sdk offline listAll registers style).run w = (.ok (), w')) :
    (config.installRoot s.environment).isOk = true := by
  unfold resolveSdk at h
  rw [if_neg (by simp [hjava])] at h
  obtain ⟨source, between, -, hrest⟩ := run_bind_eq_ok h
  obtain ⟨root, between', hread, -⟩ := run_bind_eq_ok hrest
  obtain ⟨hroot, -⟩ := run_ofExcept_eq_ok hread
  rw [hroot]
  rfl

theorem register_detected (h : fix.origin = .detected) :
    register config s style (some (.localFix fix)) = (do
      Job.onFiles ((withRegistration config fix).save s.environment)
      match style with
      | .lines => Job.print ("已注册为 " ++ fix.suggestedName ++ "\n")
      | .json => pure ()) := by
  unfold register
  simp only [h]
  rfl

theorem register_registered (h : fix.origin = .registered) :
    register config s style (some (.localFix fix)) = pure () := by
  unfold register
  simp only [h]

theorem run_onFiles_eq_ok {action : Action Unit} (h : (Job.onFiles action).run w = (.ok (), w')) :
    action.run w.files = (.ok (), w'.files) := by
  rw [run_onFiles] at h
  rcases hrun : action.run w.files with ⟨result, files⟩
  rw [hrun] at h
  cases h
  rfl

/-- A resolution that registers a detected JDK saves the settings with its row, and changes nothing
else. -/
theorem save_of_registered (hauto : config.autoSetup = true)
    (hproposes : Proposes config s sdk offline w.files (some (.localFix fix)))
    (hdetected : fix.origin = .detected)
    (hroot : (config.installRoot s.environment).isOk = true)
    (h : (resolveSdk config s sdk offline false true style).run w = (.ok (), w')) :
    ((withRegistration config fix).save s.environment).run w.files = (.ok (), w'.files) := by
  rw [run_resolveSdk_of_proposes hauto hproposes hroot, if_pos rfl,
    register_detected hdetected] at h
  obtain ⟨_, between, hsave, hnote⟩ := run_bind_eq_ok h
  have hfiles : w'.files = between.files := by
    cases style <;> cases hnote <;> rfl
  have hrun := run_onFiles_eq_ok hsave
  rw [hfiles]
  exact hrun

end Command

/-! ## §2 A machine with one JDK -/

/-- No homes are found under a root that is missing. -/
theorem Scanner.homesOf_of_missing {fs : FileSystem} {root : String}
    (h : fs.canonicalize? root = none) : homesOf fs root = [] := by
  have hvalid : JdkHome.isValid fs root = false := by
    rw [JdkHome.isValid, isDirectory, nodeOf?, h]
    rfl
  rw [homesOf, hvalid, if_neg Bool.false_ne_true, children, h]
  rfl

namespace SmallMachine

def releaseText : String := "JAVA_VERSION=\"17.0.2\"\n"

/-- A JDK in a directory of its own, where no scan of the usual places looks. -/
def files : FileSystem :=
  ⟨[(["jdk"], .directory), (["jdk", "bin"], .directory),
    (["jdk", "bin", "java"], .file ⟨.empty, true, none⟩),
    (["jdk", "release"], .file ⟨releaseText.toUTF8, false, none⟩)], []⟩

def environment : Environment :=
  ⟨[("JDKAUTO_CONFIG", "/config"), ("JAVA_HOME", "/jdk")], some "/root"⟩

def surroundings : Surroundings :=
  ⟨environment, fun _ => .silent "", 0, 0, .none, "task"⟩

def scanner : Scanner := Scanner.ofConfiguration .standard environment

def sdk : UnknownSdk := ⟨"17", .java⟩

/-- What is known of the JDK. -/
def probe : Probe := ⟨"/jdk", "17.0.2", ⟨17, 0, 2, 0, 0, false⟩, "17", none⟩

def fix : LocalFix := .ofDetected (Scanner.detectedJdk probe)

/-! ### The home -/

theorem isName_jdk : IsName "jdk" := by decide

theorem canonicalize?_home : files.canonicalize? "/jdk" = some ["jdk"] :=
  canonicalize?_eq_some_iff.mpr
    ⟨["", "jdk"], rfl, .idle isIdle_empty (.directory isName_jdk rfl .done)⟩

theorem canonicalize?_program :
    files.canonicalize? (JdkHome.javaProgram "/jdk") = some ["jdk", "bin", "java"] := by
  have hpath : JdkHome.javaProgram "/jdk" = "/jdk/bin/java" := by decide
  have hbin : IsName "bin" := by decide
  have hjava : IsName "java" := by decide
  rw [hpath]
  refine canonicalize?_eq_some_iff.mpr ⟨["", "jdk", "bin", "java"], rfl, ?_⟩
  exact .idle isIdle_empty
    (.directory isName_jdk rfl (.directory hbin rfl (.file hjava rfl)))

theorem canonicalize?_release :
    files.canonicalize? (Path.join "/jdk" "release") = some ["jdk", "release"] := by
  have hpath : Path.join "/jdk" "release" = "/jdk/release" := by decide
  have hrelease : IsName "release" := by decide
  rw [hpath]
  refine canonicalize?_eq_some_iff.mpr ⟨["", "jdk", "release"], rfl, ?_⟩
  exact .idle isIdle_empty (.directory isName_jdk rfl (.file hrelease rfl))

theorem release?_home : JdkHome.release? files "/jdk" = some (Release.parse releaseText) := by
  have hfile : files.fileOf? (Path.join "/jdk" "release") =
      some ⟨releaseText.toUTF8, false, none⟩ := by
    rw [fileOf?, nodeOf?, canonicalize?_release]
    rfl
  have hutf8 : String.fromUTF8? releaseText.toUTF8 = some releaseText :=
    dif_pos releaseText.isValidUTF8
  rw [JdkHome.release?, toOption_readText, hfile, Option.bind_some, hutf8]
  rfl

theorem ofValid?_home : Probe.ofValid? files "/jdk" = some probe := by
  -- What the home says is evaluated field by field, and the record is put together at the end.
  have hvalid : JdkHome.isValid files "/jdk" = true := by
    rw [JdkHome.isValid, isDirectory, isFile, fileOf?, nodeOf?, nodeOf?, canonicalize?_home,
      canonicalize?_program]
    rfl
  have hversion : (Release.parse releaseText).nonempty? "JAVA_VERSION" = some "17.0.2" := by
    decide
  have himplementor : (Release.parse releaseText).nonempty? "IMPLEMENTOR" = none := by
    decide
  have htext : Probe.versionText? files "/jdk" none = some "17.0.2" := by
    rw [Probe.versionText?, Option.map_none, Option.filter_none]
    dsimp only
    rw [JdkHome.versionText?, release?_home, Option.bind_some, hversion]
    rfl
  have hvendor : Probe.vendor? files "/jdk" "17.0.2" = none := by
    rw [Probe.vendor?, JdkHome.implementor?, release?_home, Option.bind_some, himplementor]
    decide
  have hparse : Version.parse? "17.0.2".toList = some ⟨17, 0, 2, 0, 0, false⟩ := by
    decide
  have hname : suggestName? "17.0.2".toList none = some "17".toList := by decide
  rw [Probe.ofValid?, hvalid, if_pos rfl, Probe.of?, if_neg (by decide), htext,
    Option.bind_some, Probe.ofVersionText?, hparse, hvendor]
  simp only [hname, bind, Option.bind]
  rfl

/-! ### The scan -/

theorem homesOf_of_otherRoot {root name : String} {rest : List String}
    (hpieces : walkable root = .ok ("" :: name :: rest)) (hname : IsName name)
    (hmissing : files.nodeAt? [name] = none) : Scanner.homesOf files root = [] := by
  have hstart : files.startOf root = [] := ite_self []
  exact Scanner.homesOf_of_missing (canonicalize?_eq_none hpieces hstart hname hmissing)

theorem homes_eq : scanner.homes files environment = ["/jdk"] := by
  -- The seven places where JDKs stand on a system are not there, and the scan finds nothing in
  -- them.
  have hroots : scanner.roots = ["/usr/lib/jvm", "/usr/java", "/usr/local/java", "/opt/java",
      "/root/.jdks", "/root/.sdkman/candidates/java", "/root/.jdks"] := by decide
  have husr : IsName "usr" := by decide
  have hopt : IsName "opt" := by decide
  have hroot : IsName "root" := by decide
  have hscanned : scanner.roots.flatMap (Scanner.homesOf files) = [] := by
    rw [hroots, List.flatMap_eq_nil_iff]
    intro root hmem
    simp only [List.mem_cons, List.not_mem_nil, or_false] at hmem
    obtain rfl | rfl | rfl | rfl | rfl | rfl | rfl := hmem
    · exact homesOf_of_otherRoot rfl husr rfl
    · exact homesOf_of_otherRoot rfl husr rfl
    · exact homesOf_of_otherRoot rfl husr rfl
    · exact homesOf_of_otherRoot rfl hopt rfl
    · exact homesOf_of_otherRoot rfl hroot rfl
    · exact homesOf_of_otherRoot rfl hroot rfl
    · exact homesOf_of_otherRoot rfl hroot rfl
  -- So the only home is the one that the environment names.
  have hvariable : environment.get? "JAVA_HOME" = some "/jdk" := by decide
  have hprograms : environment.programDirectories = [] := by decide
  have henvironment : Scanner.environmentHomes files environment = ["/jdk"] := by
    rw [Scanner.environmentHomes, hvariable, Scanner.homeOfProgram?, hprograms]
    rfl
  rw [Scanner.homes, hscanned, henvironment]
  rfl

theorem results_eq : scanner.results files environment = [Scanner.detectedJdk probe] := by
  have hdistinct : Scanner.distinctHomes files ["/jdk"] = ["/jdk"] := by
    rw [Scanner.distinctHomes]
    simp only [List.filterMap_cons, canonicalizeLong?_of_canonicalize? canonicalize?_home]
    rfl
  rw [Scanner.results, homes_eq, hdistinct]
  simp only [List.filterMap_cons, ofValid?_home]
  rfl

theorem proposes_fix :
    Command.Proposes .standard surroundings sdk true files (some (.localFix fix)) := by
  have hsdk : sdk.resolvable? = some ⟨.major 17, none⟩ := by decide +kernel
  refine Command.proposes_detected rfl rfl (fun _ => rfl) (fun _ => rfl) hsdk rfl ?_
  change Requirement.bestMatch? _ (scanner.results files environment) = _
  rw [results_eq]
  decide

/-! ### The registration -/

/-- The settings with the row of the JDK. -/
def registered : Configuration := Command.withRegistration .standard fix

/-- The files with the settings. -/
def filesAfter : FileSystem :=
  files.place ["config"] (.file ⟨(String.ofList registered.lines).toUTF8, false, none⟩)

theorem fileWritten : FileWritten ["config"] files filesAfter :=
  fileWritten_place (by decide) (fun _ hnode => by cases hnode) _

theorem run_save : (registered.save environment).run files = (.ok (), filesAfter) := by
  have hpath : Configuration.filePath environment = .ok "/config" := by decide
  have hrender : registered.render = .ok (String.ofList registered.lines) := by
    rw [Configuration.render, if_neg (by decide)]
  exact Configuration.run_save_config hpath hrender fun node hnode => by cases hnode

/-- What the first resolution prints. -/
def proposal : String := Report.resolution sdk (some (.localFix fix)) none .json

theorem run_resolveSdk :
    (Command.resolveSdk .standard surroundings sdk true false true .json).run ⟨files, ""⟩ =
      (.ok (), ⟨filesAfter, "" ++ proposal⟩) := by
  have hroot : (Configuration.standard.installRoot environment).isOk = true := by decide
  have hsave : (Job.onFiles (registered.save environment)).run ⟨files, "" ++ proposal⟩ =
      (.ok (), ⟨filesAfter, "" ++ proposal⟩) := by
    rw [Command.run_onFiles, run_save]
  rw [Command.run_resolveSdk_of_proposes rfl proposes_fix hroot, if_pos rfl,
    Command.register_detected rfl]
  change (Job.onFiles (registered.save environment) >>= fun _ => pure ()).run
    ⟨files, "" ++ proposal⟩ = _
  rw [run_bind, hsave]
  rfl

theorem apart_home : JdkHome.Apart filesAfter ["config"] "/jdk" where
  program := by
    rw [fileWritten.canonicalize?_of_before canonicalize?_program]
    decide
  release := by
    rw [fileWritten.canonicalize?_of_before canonicalize?_release]
    decide

end SmallMachine

/-! ## §3 The loop -/

/-- A later run in the same environment, which nobody interrupts. -/
structure Surroundings.Repeats (s s' : Surroundings) : Prop where
  environment : s'.environment = s.environment
  starts : s'.interruption.atStart = false
  reads : ∀ look, s'.interruption.whileReading look = false

namespace Command

variable {config : Configuration} {s s' : Surroundings} {sdk : UnknownSdk}
  {offline offline' : Bool} {w w' : Workspace} {fix : LocalFix} {place : Location}

/-- A detected JDK that is proposed is what is known of its home, and no row meets the requirement
that it meets. -/
theorem exists_probe_of_resolveLocal {r : Requirement} {registered : List RegisteredJdk}
    {scanner : Scanner} {fs : FileSystem} {env : Environment}
    (h : r.resolveLocal registered (scanner.results fs env) = some fix)
    (hdetected : fix.origin = .detected) :
    ∃ probe v, r.Declines registered ∧ Probe.ofValid? fs fix.home = some probe ∧
      r.Eligible (Scanner.detectedJdk probe) v ∧ fix.versionText = toString probe.version := by
  obtain ⟨hdeclines, jdk, hbest, rfl⟩ := Requirement.resolveLocal_detected h hdetected
  obtain ⟨before, after, v, hlist, hmet, -⟩ := Requirement.chooses_of_bestMatch? hbest
  have hmem : jdk ∈ scanner.results fs env := by
    rw [hlist]
    simp
  obtain ⟨probe, hprobe, rfl⟩ := Scanner.exists_of_mem_results hmem
  exact ⟨probe, v, hdeclines, hprobe, hmet, rfl⟩

/-- The rows from before the registration still make no candidate for the requirement. -/
theorem declines_old_rows {r : Requirement} {fs fs' : FileSystem} {env : Environment}
    {rows rows' : List Registration} (hrows : rows' ⊆ rows)
    (hdeclines : r.Declines (Registry.candidates rows fs env))
    (hwritten : FileWritten place fs fs')
    (hapart : ∀ row ∈ rows, JdkHome.isValid fs' (env.expand row.home) = true →
      JdkHome.Apart fs' place (env.expand row.home)) :
    r.Declines (Registry.candidates rows' fs' env) := by
  intro jdk hjdk v heligible
  obtain ⟨row, hrow, hmade⟩ := List.mem_filterMap.mp hjdk
  have hbefore := Registration.toJdk?_before hwritten (hapart row (hrows hrow)) hmade
    heligible.usable
  exact hdeclines jdk (List.mem_filterMap.mpr ⟨row, hrows hrow, hbefore⟩) v heligible

/-- What was registered is the best that the rows of the table have to offer. -/
theorem exists_bestMatch_of_registered {r : Requirement} {fs fs' : FileSystem}
    {env : Environment} {probe : Probe} {v : Version}
    (hdeclines : r.Declines (Registry.candidates config.registrations fs env))
    (hprobe : Probe.ofValid? fs fix.home = some probe)
    (hmet : r.Eligible (Scanner.detectedJdk probe) v)
    (htext : fix.versionText = toString probe.version)
    (hwritten : FileWritten place fs fs')
    (hapart : ∀ home ∈ fix.home :: config.registrations.map fun row => env.expand row.home,
      JdkHome.isValid fs' home = true → JdkHome.Apart fs' place home)
    (hreference : Environment.reference? fix.home = none)
    (hversion : probe.version.KeepsNumbers)
    (hvendor : r.vendor = none ∨ JdkHome.TellsVendor fs fix.home) :
    ∃ jdk, r.bestMatch? (Registry.candidates (withRegistration config fix).registrations fs' env) =
      some jdk ∧ jdk.home = fix.home ∧ toString jdk.version = fix.versionText := by
  -- The home is known after the registration as it was before.
  have hvalid := (Probe.reads_of_ofValid? hprobe).isValid
  have hvalid' := JdkHome.isValid_after hwritten hvalid
  have hhome := hapart fix.home List.mem_cons_self hvalid'
  have hprobe' : Probe.ofValid? fs' fix.home = some probe := by
    rw [Probe.ofValid?, hvalid, if_pos rfl] at hprobe
    rw [Probe.ofValid?, hvalid', if_pos rfl, ← Probe.of?_eq hwritten hhome, hprobe]
  have hvendor' : r.vendor = none ∨ JdkHome.TellsVendor fs' fix.home := by
    rw [JdkHome.TellsVendor, ← JdkHome.implementor?_eq hwritten hhome]
    exact hvendor
  -- The new row stands behind the old ones, and these still do not do.
  obtain ⟨jdk, hjdk, hsame, hread, hguess, husable⟩ : ∃ jdk,
      (registrationOf fix).toJdk? fs' env = some jdk ∧ jdk.home = fix.home ∧
        jdk.version = probe.version.written ∧
        jdk.vendor = Probe.vendor? fs' fix.home fix.versionText ∧ jdk.validHome = true :=
    Registration.toJdk?_registrationOf hprobe' htext hreference
  have hcandidates : Registry.candidates (withRegistration config fix).registrations fs' env =
      Registry.candidates (config.registrations.filter (·.name ≠ fix.suggestedName)) fs' env ++
        [jdk] := by
    rw [withRegistration, Registry.register, Registry.candidates, List.filterMap_append]
    simp only [List.filterMap_cons, List.filterMap_nil, hjdk]
    rfl
  have hold : r.Declines (Registry.candidates
      (config.registrations.filter (·.name ≠ fix.suggestedName)) fs' env) := by
    refine declines_old_rows (List.filter_subset_self _) hdeclines hwritten ?_
    intro row hrow
    exact hapart _ (List.mem_cons_of_mem _ (List.mem_map.mpr ⟨row, hrow, rfl⟩))
  have heligible := Requirement.eligible_row hprobe' hmet hversion hvendor' hread hguess husable
  refine ⟨jdk, ?_, hsame, ?_⟩
  · rw [hcandidates]
    exact Requirement.bestMatch?_of_last hold heligible
  · change String.ofList jdk.version.format = fix.versionText
    rw [hread, Version.format_written, htext]
    rfl

/-- The catalog has a source in the later run if it had one in the first. -/
theorem isOk_sourceOf {source : Option CatalogSource} (h : sourceOf config s offline = .ok source)
    (hrepeats : s.Repeats s') (hoffline : offline = true → offline' = true) :
    (sourceOf (withRegistration config fix) s' offline').isOk = true := by
  cases offline' with
  | true => rfl
  | false =>
    have honline : offline = false := by
      cases offline with
      | true => exact (hoffline rfl).symm
      | false => rfl
    have hsame : sourceOf (withRegistration config fix) s' false = sourceOf config s false := by
      rw [sourceOf, sourceOf, hrepeats.environment]
      rfl
    rw [hsame, ← honline, h]
    rfl

/-- What a resolution has found on the machine and registered is proposed by the next one as a
registered JDK, with the same home and the same version. -/
theorem proposes_what_was_registered {style : ReportStyle}
    (hauto : config.autoSetup = true)
    (hproposes : Proposes config s sdk offline w.files (some (.localFix fix)))
    (hdetected : fix.origin = .detected)
    (hstored : (resolveSdk config s sdk offline false true style).run w = (.ok (), w'))
    (hwritten : FileWritten place w.files w'.files)
    (hapart : ∀ home ∈ fix.home ::
        config.registrations.map fun row => s.environment.expand row.home,
      JdkHome.isValid w'.files home = true → JdkHome.Apart w'.files place home)
    (hrepeats : s.Repeats s') (hoffline : offline = true → offline' = true)
    (hreference : Environment.reference? fix.home = none)
    (hversion : ∀ probe, Probe.ofValid? w.files fix.home = some probe →
      probe.version.KeepsNumbers)
    (hvendor : ∀ r, sdk.requirement? = some r →
      r.vendor = none ∨ JdkHome.TellsVendor w.files fix.home)
    (registers' : Bool) (style' : ReportStyle) :
    (Configuration.load s'.environment).run w'.files =
        (config.validate.map fun _ => withRegistration config fix, w'.files) ∧
      ∃ fix', fix'.origin = .registered ∧ fix'.home = fix.home ∧
        fix'.versionText = fix.versionText ∧
        Proposes (withRegistration config fix) s' sdk offline' w'.files (some (.localFix fix')) ∧
        (resolveSdk (withRegistration config fix) s' sdk offline' false registers' style').run w' =
          (.ok (), { w' with printed := w'.printed ++
            Report.resolution sdk (some (.localFix fix')) none style' }) := by
  obtain ⟨r, hsdk, hlocal⟩ := hproposes.resolveLocal
  have hjava := java_of_resolvable? hsdk
  have hrequirement : sdk.requirement? = some r := by
    rwa [UnknownSdk.resolvable?, if_pos hjava] at hsdk
  have hroot := installRoot_of_resolved hjava hstored
  have hsave := save_of_registered hauto hproposes hdetected hroot hstored
  -- The JDK was found by the scan, and it met the requirement.
  obtain ⟨probe, v, hdeclines, hprobe, hmet, hfound⟩ :=
    exists_probe_of_resolveLocal hlocal hdetected
  obtain ⟨row, hrow, hhome, htext⟩ := exists_bestMatch_of_registered hdeclines hprobe hmet hfound
    hwritten hapart hreference (hversion probe hprobe) (hvendor r hrequirement)
  have hagain : Proposes (withRegistration config fix) s' sdk offline' w'.files
      (some (.localFix (.ofRegistered row))) := by
    obtain ⟨source, hsource, -⟩ := hproposes
    refine proposes_registered (isOk_sourceOf hsource hrepeats hoffline) hrepeats.starts
      hrepeats.reads hsdk ?_
    rw [hrepeats.environment]
    exact hrow
  refine ⟨?_, .ofRegistered row, rfl, hhome, htext, hagain, ?_⟩
  · rw [hrepeats.environment]
    exact Configuration.load_of_save hsave hwritten
  · have hroot' : ((withRegistration config fix).installRoot s'.environment).isOk = true := by
      rw [hrepeats.environment]
      exact hroot
    have hauto' : (withRegistration config fix).autoSetup = true := hauto
    rw [run_resolveSdk_of_proposes hauto' hagain hroot', register_registered rfl]
    cases registers' <;> rfl

/-- The JDK that is found through `JAVA_HOME` is proposed as a registered one once it has been
registered. -/
theorem proposes_jdk_of_smallMachine :
    Proposes .standard SmallMachine.surroundings SmallMachine.sdk true SmallMachine.files
        (some (.localFix SmallMachine.fix)) ∧
      (resolveSdk .standard SmallMachine.surroundings SmallMachine.sdk true false true .json).run
          ⟨SmallMachine.files, ""⟩ =
        (.ok (), ⟨SmallMachine.filesAfter, "" ++ SmallMachine.proposal⟩) ∧
      (Configuration.load SmallMachine.environment).run SmallMachine.filesAfter =
        (Configuration.standard.validate.map fun _ => SmallMachine.registered,
          SmallMachine.filesAfter) ∧
      ∃ fix', fix'.origin = .registered ∧ fix'.home = "/jdk" ∧ fix'.versionText = "17.0.2" ∧
        Proposes SmallMachine.registered SmallMachine.surroundings SmallMachine.sdk true
          SmallMachine.filesAfter (some (.localFix fix')) ∧
        (resolveSdk SmallMachine.registered SmallMachine.surroundings SmallMachine.sdk true false
            false .lines).run ⟨SmallMachine.filesAfter, "" ++ SmallMachine.proposal⟩ =
          (.ok (), ⟨SmallMachine.filesAfter, "" ++ SmallMachine.proposal ++
            Report.resolution SmallMachine.sdk (some (.localFix fix')) none .lines⟩) := by
  -- The hypotheses of the theorem, in its order.
  have hapart : ∀ home ∈ SmallMachine.fix.home ::
      Configuration.standard.registrations.map fun row => SmallMachine.environment.expand row.home,
      JdkHome.isValid SmallMachine.filesAfter home = true →
        JdkHome.Apart SmallMachine.filesAfter ["config"] home := by
    intro home hhome _
    cases List.mem_singleton.mp hhome
    exact SmallMachine.apart_home
  have hrepeats : SmallMachine.surroundings.Repeats SmallMachine.surroundings :=
    ⟨rfl, rfl, fun _ => rfl⟩
  have hreference : Environment.reference? SmallMachine.fix.home = none := by decide
  have hversion : ∀ probe, Probe.ofValid? SmallMachine.files SmallMachine.fix.home = some probe →
      probe.version.KeepsNumbers := by
    intro probe hprobe
    cases SmallMachine.ofValid?_home.symm.trans hprobe
    exact .inl (by decide)
  have hvendor : ∀ r, SmallMachine.sdk.requirement? = some r →
      r.vendor = none ∨ JdkHome.TellsVendor SmallMachine.files SmallMachine.fix.home := by
    intro r hr
    -- The suggested name asks for no vendor, so the home need not tell one.
    have hsdk : SmallMachine.sdk.requirement? = some ⟨.major 17, none⟩ := by decide +kernel
    cases hsdk.symm.trans hr
    exact .inl rfl
  have htext : SmallMachine.fix.versionText = "17.0.2" := by decide
  obtain ⟨hload, fix', horigin, hhome, hsame, hproposed, hrun⟩ :=
    proposes_what_was_registered rfl SmallMachine.proposes_fix rfl SmallMachine.run_resolveSdk
      SmallMachine.fileWritten hapart hrepeats (fun _ => rfl : true = true → true = true)
      hreference hversion hvendor false .lines
  exact ⟨SmallMachine.proposes_fix, SmallMachine.run_resolveSdk, hload, fix', horigin, hhome,
    hsame.trans htext, hproposed, hrun⟩

end Command

end JdkFinder
