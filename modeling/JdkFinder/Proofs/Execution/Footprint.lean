import JdkFinder.Proofs.Catalog.Footprint
import JdkFinder.Proofs.Execution.Registration
import JdkFinder.Proofs.Scan.OtherFiles

/-!
# What a run leaves of the settings

Whatever a command does, the file of the settings is left as it is, unless a JDK is registered; then
the row of the JDK is all that is new in it
(`CommandLine.settings_change_only_by_registration`).
-/

namespace JdkFinder

open FileSystem

/-! ## §1 Sessions -/

/-- Waiting for a list calls upon the collaborator once at most, and keeps the list that it
gives. -/
theorem Supply.world_of_await {σ β : Type} (start : σ → Future (List β) × σ) (p : Supply σ β) :
    ((p.await start).2.world = p.world ∧ (p.await start).2.memo = p.memo) ∨
      ((p.await start).2.world = (start p.world).2 ∧
        ∀ list, (p.await start).1 = .ok list → (p.await start).2.memo.kept = some list) := by
  -- Only a list that is not kept yet, with a token that is not cancelled, starts any work.
  cases hkept : p.memo.kept with
  | some list => exact .inl (by simp only [await, hkept, and_self])
  | none =>
    cases hcancelled : p.cancelled with
    | true => exact .inl (by simp only [await, hkept, hcancelled, ↓reduceIte, and_self])
    | false =>
      right
      simp only [await, hkept, hcancelled, Bool.false_eq_true, ↓reduceIte, Memo.conclude]
      refine ⟨rfl, fun list hlist => ?_⟩
      rw [hlist]
      rfl

section Sessions

variable {config : Configuration} {source : Option CatalogSource} {s : Surroundings}
  {t u : Session FileSystem}

/-- Reading the table leaves the files and the catalog alone. -/
theorem Session.world_of_readTable {result : Except Error (List RegisteredJdk)}
    (h : t.readTable (.onMachine config source s) = (result, u)) :
    u.world = t.world ∧ u.catalog = t.catalog := by
  obtain rfl := (Prod.mk.inj h).2
  refine ⟨?_, rfl⟩
  simp only [Collaborators.onMachine]
  cases s.readTable config t.cancelled t.world <;> rfl

/-- A scan leaves the files and the catalog alone. -/
theorem Session.world_of_detectedJdks {result : Except Error (List DetectedJdk)}
    (h : t.detectedJdks (.onMachine config source s) = (result, u)) :
    u.world = t.world ∧ u.catalog = t.catalog := by
  obtain rfl := (Prod.mk.inj h).2
  refine ⟨?_, rfl⟩
  rcases (t.detectedSupply false).world_of_await (Collaborators.onMachine config source s).scan with
    ⟨hworld, -⟩ | ⟨hworld, -⟩
  · exact hworld
  · exact hworld

/-- The catalog is fetched once at most, and then kept unless the fetch is cancelled. -/
theorem Session.world_of_catalogJdks {result : Except Error (List DownloadableJdk)}
    (h : t.catalogJdks (.onMachine config source s) = (result, u)) :
    u.world = t.world ∨
      (u.world = ((Collaborators.onMachine config source s).fetch t.world).2 ∧
        ∀ list, result = .ok list → u.catalog.kept = some list) := by
  obtain ⟨rfl, rfl⟩ := Prod.mk.inj h
  exact ((t.catalogSupply false).world_of_await
    (Collaborators.onMachine config source s).fetch).imp And.left id

/-- A catalog that is kept is not fetched again. -/
theorem Session.catalogJdks_of_kept {list : List DownloadableJdk}
    (hkept : t.catalog.kept = some list) :
    t.catalogJdks (.onMachine config source s) = (.ok list, t) := by
  simp only [catalogJdks, Supply.await, catalogSupply, hkept]
  rfl

/-- A program that finds the catalog kept leaves the files alone. -/
theorem Program.world_of_run_of_kept {α : Type} (p : Program α) (t : Session FileSystem)
    (hkept : t.catalog.kept.isSome = true) :
    (p.run (.onMachine config source s) t).2.world = t.world := by
  -- No call gives up a catalog that is kept, so the hypothesis carries over to what follows.
  induction p generalizing t with
  | done result => rfl
  | check next ih =>
    simp only [run]
    split
    · rfl
    · exact ih t hkept
  | registered next ih =>
    simp only [run]
    split
    · rename_i list u hread
      obtain ⟨hworld, hcatalog⟩ := Session.world_of_readTable hread
      rw [ih list u (by rwa [hcatalog]), hworld]
    · rename_i e u hread
      exact (Session.world_of_readTable hread).1
  | detected next ih =>
    simp only [run]
    split
    · rename_i list u hscan
      obtain ⟨hworld, hcatalog⟩ := Session.world_of_detectedJdks hscan
      rw [ih list u (by rwa [hcatalog]), hworld]
    · rename_i e u hscan
      exact (Session.world_of_detectedJdks hscan).1
  | catalog next ih =>
    obtain ⟨list, hlist⟩ := Option.isSome_iff_exists.mp hkept
    simp only [run, Session.catalogJdks_of_kept hlist]
    exact ih list t hkept

/-- A program fetches the catalog once at most, and does nothing else to the files. -/
theorem Program.world_of_run {α : Type} (config : Configuration) (source : Option CatalogSource)
    (s : Surroundings) (p : Program α) (t : Session FileSystem) :
    (p.run (.onMachine config source s) t).2.world = t.world ∨
      (p.run (.onMachine config source s) t).2.world =
        ((Collaborators.onMachine config source s).fetch t.world).2 := by
  -- On the program: only the first look at the catalog writes, and the list is kept from then on.
  induction p generalizing t with
  | done result => exact .inl rfl
  | check next ih =>
    simp only [run]
    split
    · exact .inl rfl
    · exact ih t
  | registered next ih =>
    simp only [run]
    split
    · rename_i list u hread
      rw [← (Session.world_of_readTable hread).1]
      exact ih list u
    · rename_i e u hread
      exact .inl (Session.world_of_readTable hread).1
  | detected next ih =>
    simp only [run]
    split
    · rename_i list u hscan
      rw [← (Session.world_of_detectedJdks hscan).1]
      exact ih list u
    · rename_i e u hscan
      exact .inl (Session.world_of_detectedJdks hscan).1
  | catalog next ih =>
    simp only [run]
    split
    · rename_i list u hask
      rcases Session.world_of_catalogJdks hask with hworld | ⟨hworld, hkept⟩
      · rw [← hworld]
        exact ih list u
      · -- What follows finds the catalog kept.
        have hsome : u.catalog.kept.isSome = true := by
          rw [hkept list rfl]
          rfl
        exact .inr ((world_of_run_of_kept (next list) u hsome).trans hworld)
    · rename_i e u hask
      exact (Session.world_of_catalogJdks hask).imp id And.left

end Sessions

/-! ## §2 Commands -/

namespace Configuration

/-- Nothing but the entry of the catalog is touched. -/
inductive Touches (config : Configuration) (env : Environment) (fs : FileSystem) :
    FileSystem → Prop where
  | nothing : Touches config env fs fs
  | entry {cache : Cache} {fs' : FileSystem} (hcache : config.catalogCache? env = .ok (some cache))
      (h : cache.Touches catalogKey fs fs') : Touches config env fs fs'

variable {config : Configuration} {env : Environment} {source : CatalogSource} {fs : FileSystem}

/-- The source of the catalog has the cache of the settings. -/
theorem catalogCache?_of_source (h : config.catalogSource env = .ok source) :
    config.catalogCache? env = .ok source.cache := by
  unfold catalogSource at h
  cases hcache : config.catalogCache? env with
  | error e =>
    rw [hcache] at h
    cases h
  | ok cache =>
    rw [hcache] at h
    cases h
    rfl

theorem touches_of_fetch (h : config.catalogSource env = .ok source) (c : FetchCircumstances) :
    config.Touches env fs ((source.fetch c).run fs).2 := by
  have hcache := catalogCache?_of_source h
  cases hused : source.cache with
  | none =>
    rw [CatalogSource.files_of_fetch_uncached hused]
    exact .nothing
  | some cache => exact .entry (hused ▸ hcache) (CatalogSource.touches_of_fetch hused)

namespace Touches

variable {fs' : FileSystem} {place : Location} {file : RegularFile} {path : String}
  (h : config.Touches env fs fs') (hs : fs.IsTree) (hfile : fs.nodeAt? place = some (.file file))
  (havoids : ∀ cache, config.catalogCache? env = .ok (some cache) →
    cache.Avoids catalogKey fs place)

include h hs hfile havoids

/-- A file that is not that of the catalog is left as it is. -/
theorem nodeAt?_eq : fs'.nodeAt? place = some (.file file) := by
  cases h with
  | nothing => exact hfile
  | entry hcache htouches =>
    exact htouches.nodeAt?_eq hs (by decide) hfile (havoids _ hcache)

theorem canonicalize?_eq (hpath : fs.canonicalize? path = some place)
    (hwithout : ∀ cache, config.catalogCache? env = .ok (some cache) →
      (cache.discard catalogKey fs).canonicalize? path = some place) :
    fs'.canonicalize? path = some place := by
  cases h with
  | nothing => exact hpath
  | entry hcache htouches =>
    exact htouches.canonicalize?_eq hs (by decide) hfile (havoids _ hcache) hpath
      (hwithout _ hcache)

end Touches

end Configuration

namespace Command

variable {config : Configuration} {s : Surroundings} {sdk : UnknownSdk} {offline : Bool}
  {source : Option CatalogSource} {w : Workspace} {fs : FileSystem} {fix : LocalFix}

/-- A command registers a JDK that it has found on the machine. -/
inductive Registers (config : Configuration) (s : Surroundings) (fs : FileSystem)
    (fix : LocalFix) : Command → Prop where
  | resolve {name kind : String} {offline json : Bool} (hkind : SdkKind.ofWord kind = .java)
      (hauto : config.autoSetup = true)
      (hproposes : Proposes config s ⟨name, .ofWord kind⟩ offline fs (some (.localFix fix)))
      (hdetected : fix.origin = .detected) :
      Registers config s fs fix (.resolve name kind offline false true json)

/-- A job touches no more files if what follows it touches none. -/
theorem files_of_bind {α β : Type} {job : Job α} {next : α → Job β} {w : Workspace}
    (h : ∀ a w', job.run w = (.ok a, w') → ((next a).run w').2.files = w'.files) :
    ((job >>= next).run w).2.files = (job.run w).2.files := by
  rw [run_bind]
  rcases hrun : job.run w with ⟨e | a, w'⟩
  · rfl
  · exact h a w' hrun

/-- To print what a job gives touches no more files than the job. -/
theorem files_of_printed {α : Type} (job : Job α) (text : α → String) (w : Workspace) :
    ((job >>= fun a => Job.print (text a)).run w).2.files = (job.run w).2.files :=
  files_of_bind fun _ _ _ => rfl

/-- Nothing is registered but a JDK that was detected. -/
theorem register_eq_pure {style : ReportStyle} {outcome : Option Outcome}
    (h : ∀ fix, outcome = some (.localFix fix) → fix.origin ≠ .detected) :
    register config s style outcome = pure () := by
  cases outcome with
  | none => rfl
  | some outcome =>
    cases outcome with
    | download jdk => rfl
    | localFix fix =>
      cases horigin : fix.origin with
      | registered => exact register_registered horigin
      | detected => exact absurd horigin (h fix rfl)

/-- The source of a resolution is that of the settings. -/
theorem catalogSource_of_sourceOf {used : CatalogSource}
    (h : sourceOf config s offline = .ok (some used)) :
    config.catalogSource s.environment = .ok used := by
  unfold sourceOf at h
  split at h
  · cases h
  cases hsource : config.catalogSource s.environment with
  | error e =>
    rw [hsource] at h
    cases h
  | ok other =>
    rw [hsource] at h
    cases h
    rfl

/-- A program in a session touches nothing but the entry of the catalog. -/
theorem touches_of_inSession {α : Type} (hsource : sourceOf config s offline = .ok source)
    (program : Program α) (w : Workspace) :
    config.Touches s.environment w.files
      ((inSession (.onMachine config source s) s program).run w).2.files := by
  rw [run_inSession]
  -- The files are as they were, or a fetch has been run on them.
  rcases program.world_of_run config source s (.start s.interruption.atStart w.files) with
    hworld | hworld
  · rw [hworld]
    exact .nothing
  rw [hworld]
  cases source with
  | none => exact .nothing
  | some source =>
    exact Configuration.touches_of_fetch (catalogSource_of_sourceOf hsource) _

/-- Listing the catalog touches nothing but its entry, also if the entry is removed first. -/
theorem touches_of_listCatalog (hs : w.files.IsTree) (refresh : Bool) (style : ReportStyle) :
    config.Touches s.environment w.files
      ((listCatalog config s refresh style).run w).2.files := by
  unfold listCatalog
  cases hsource : config.catalogSource s.environment with
  | error e => exact .nothing
  | ok source =>
    have hfetched (w : Workspace) : config.Touches s.environment w.files
        ((do
          let jdks ← Job.onFiles (source.fetch s.fetchCircumstances)
          Job.print (Report.catalog jdks style) : Job Unit).run w).2.files := by
      rw [files_of_printed]
      exact Configuration.touches_of_fetch hsource _
    rw [run_ofExcept_bind]
    cases hused : source.cache with
    | none => exact hfetched w
    | some cache =>
      cases refresh with
      | false => exact hfetched w
      | true =>
        have hkey : '/' ∉ catalogKey.toList := by decide
        have hcache : config.catalogCache? s.environment = .ok (some cache) :=
          hused ▸ Configuration.catalogCache?_of_source hsource
        have hclear := cache.clear_cases catalogKey w.files
        -- Whether clearing fails or not, it has removed the entry or done nothing.
        change config.Touches s.environment w.files
          ((Job.onFiles (cache.clear catalogKey) >>= fun _ => _).run w).2.files
        rw [run_bind, run_onFiles]
        rcases hrun : (cache.clear catalogKey).run w.files with ⟨e | _, cleared⟩
        · rw [hrun] at hclear
          rcases hclear with hsame | hremoved
          · exact hsame ▸ .nothing
          · exact hremoved ▸ .entry hcache .discarded
        · rw [hrun] at hclear
          rcases hclear with hsame | hremoved
          · dsimp only at hsame ⊢
            rw [hsame]
            exact hfetched w
          · -- The fetch starts from files without the entry.
            dsimp only at hremoved ⊢
            rw [hremoved]
            refine .entry hcache (.of_discarded hs hkey ?_)
            rw [files_of_printed]
            exact CatalogSource.touches_of_fetch hused

/-- A resolution that registers nothing touches nothing but the entry of the catalog. -/
theorem touches_of_resolveSdk {listAll registers : Bool} {style : ReportStyle}
    (h : registers = true → listAll = false → sdk.kind = .java → config.autoSetup = true →
      ∀ fix, Proposes config s sdk offline w.files (some (.localFix fix)) →
        fix.origin ≠ .detected) :
    config.Touches s.environment w.files
      ((resolveSdk config s sdk offline listAll registers style).run w).2.files := by
  unfold resolveSdk
  -- Nothing is asked for an SDK of another kind, without the settings that are needed, or without
  -- setup.
  by_cases hkind : sdk.kind ≠ .java
  · rw [if_pos hkind]
    exact .nothing
  rw [if_neg hkind]
  cases hsource : sourceOf config s offline with
  | error e => exact .nothing
  | ok source =>
    rw [run_ofExcept_bind]
    cases hroot : config.installRoot s.environment with
    | error e => exact .nothing
    | ok root =>
      rw [run_ofExcept_bind]
      cases hauto : config.autoSetup with
      | false => exact .nothing
      | true =>
        have hasked {α : Type} (program : Program α) :=
          touches_of_inSession hsource program w
        cases listAll with
        | true =>
          change config.Touches s.environment w.files
            ((inSession _ s _ >>= fun list =>
              Job.print (Report.candidates list style)).run w).2.files
          rw [files_of_printed]
          exact hasked _
        | false =>
          change config.Touches s.environment w.files ((inSession (.onMachine config source s) s
            (.resolve UnknownSdk.requirement? sdk) >>= fun outcome => _).run w).2.files
          rw [files_of_bind]
          · exact hasked _
          -- The files can change after the session only where the outcome is registered.
          intro outcome between hrun
          cases registers with
          | false => rfl
          | true =>
            have hproposes : Proposes config s sdk offline w.files outcome :=
              ⟨source, hsource, congrArg Prod.fst hrun⟩
            have hpure : register config s style outcome = pure () :=
              register_eq_pure fun fix hfix =>
                h rfl rfl (not_not.mp hkind) hauto fix (hfix ▸ hproposes)
            apply files_of_bind
            intro _ printed _
            rw [if_pos rfl, hpure]
            rfl

/-- A command that registers nothing touches nothing but the entry of the catalog. -/
theorem touches_of_perform (command : Command) (hs : w.files.IsTree)
    (h : ¬ ∃ fix, command.Registers config s w.files fix) :
    config.Touches s.environment w.files ((command.perform config s).run w).2.files := by
  cases command with
  | resolve name kind offline listAll registers json =>
    apply touches_of_resolveSdk
    intro hregisters hlistAll hkind hauto fix hproposes hdetected
    subst hregisters hlistAll
    exact h ⟨fix, .resolve hkind hauto hproposes hdetected⟩
  | scan json =>
    simp only [perform, files_of_printed]
    exact .nothing
  | registered json =>
    simp only [perform, files_of_printed]
    exact .nothing
  | listRemote refresh json => exact touches_of_listCatalog hs refresh _

end Command

/-! ## §3 Runs -/

namespace CommandLine

variable {words : List String} {s : Surroundings} {files : FileSystem} {path : String}
  {config : Configuration} {invocation : Invocation}

/-- A run without a command leaves the files alone. -/
theorem run_of_refused {e : UsageError} (hparse : parse words = .error e) :
    (run words s files).files = files := by
  simp only [run, hparse]
  cases e <;> rfl

/-- Once the settings are loaded, a run does what the command does. -/
theorem run_of_loaded (hparse : parse words = .ok invocation)
    (hpath : Configuration.filePath s.environment = .ok path)
    (hload : Configuration.loadFrom path files = .ok config) :
    (run words s files).files =
        ((invocation.command.perform config s).run ⟨files, ""⟩).2.files ∧
      ((run words s files).exitCode = 0 ↔
        ((invocation.command.perform config s).run ⟨files, ""⟩).1 = .ok ()) := by
  obtain ⟨⟨text, hread⟩, -⟩ := Configuration.readText_of_loadFrom hload
  have hloaded := Configuration.run_load_of_hasPath hpath (Configuration.hasPath_of_readText hread)
  have hstart : (Job.onFiles (Configuration.load s.environment)).run ⟨files, ""⟩ =
      (.ok config, ⟨files, ""⟩) := by
    rw [Command.run_onFiles, hloaded, hload]
  simp only [run, hparse, hstart]
  -- The command fails or returns; a failure finishes with a code of its own, which is never zero.
  rcases (invocation.command.perform config s).run ⟨files, ""⟩ with ⟨e | _, w⟩
  · refine ⟨rfl, fun hexit => ?_, fun hok => by cases hok⟩
    simp only [Finish.ofFailure] at hexit
    split at hexit <;> cases hexit
  · exact ⟨rfl, fun _ => rfl, fun _ => rfl⟩

/-- A run leaves the file of the settings as it is, unless it registers a JDK that it has found on
the machine.  If it does that and succeeds, the settings are the old ones but for the rows: those of
the name of the JDK are gone, and the row of the JDK comes last.

The file must not be the one in which the catalog is kept.  Its path leads to it as before, unless
it leads through the entry of the catalog, which a run may remove. -/
theorem settings_change_only_by_registration {place : Location} (hs : files.IsTree)
    (hpath : Configuration.filePath s.environment = .ok path)
    (hload : Configuration.loadFrom path files = .ok config)
    (hplace : files.canonicalize? path = some place)
    (hcache : ∀ cache, config.catalogCache? s.environment = .ok (some cache) →
      cache.Avoids catalogKey files place) :
    ((¬ ∃ invocation fix, parse words = .ok invocation ∧
          invocation.command.Registers config s files fix) →
        (run words s files).files.nodeAt? place = files.nodeAt? place ∧
          ((∀ cache, config.catalogCache? s.environment = .ok (some cache) →
              (cache.discard catalogKey files).canonicalize? path = some place) →
            (run words s files).files.readBytes path = files.readBytes path)) ∧
      ∀ invocation fix, parse words = .ok invocation →
        invocation.command.Registers config s files fix → (run words s files).exitCode = 0 →
          Configuration.loadFrom path (run words s files).files =
            .ok { config with
              registrations := config.registrations.filter (·.name ≠ fix.suggestedName) ++
                [⟨fix.suggestedName, fix.home, some fix.versionText,
                  Command.registrationNote⟩] } := by
  obtain ⟨⟨text, hread⟩, hvalid⟩ := Configuration.readText_of_loadFrom hload
  obtain ⟨here, file, hlocate, hfile, -⟩ := readText_eq_ok_iff.mp hread
  have hhere : here = place := by
    rw [canonicalize?, hlocate] at hplace
    exact Option.some.inj hplace
  subst hhere
  constructor
  · -- The files that a run touches without registering are those of the cache.
    intro hnone
    have htouches : config.Touches s.environment files (run words s files).files := by
      cases hparse : parse words with
      | error e =>
        rw [run_of_refused hparse]
        exact .nothing
      | ok invocation =>
        rw [(run_of_loaded hparse hpath hload).1]
        refine Command.touches_of_perform (w := ⟨files, ""⟩) invocation.command hs ?_
        rintro ⟨fix, hregisters⟩
        exact hnone ⟨invocation, fix, hparse, hregisters⟩
    have hnode := htouches.nodeAt?_eq hs hfile hcache
    refine ⟨hnode.trans hfile.symm, fun hwithout => ?_⟩
    exact readBytes_eq_of_place hplace
      (htouches.canonicalize?_eq hs hfile hcache hplace hwithout) (hnode.trans hfile.symm)
  · -- A registration ends with a save of the settings, and reading them back gives what was saved.
    rintro ⟨command, debug⟩ fix hparse hregisters hexit
    obtain ⟨hfiles, hok⟩ := run_of_loaded hparse hpath hload
    rw [hfiles]
    rcases hrun : (command.perform config s).run ⟨files, ""⟩ with ⟨result, w⟩
    rw [hrun] at hok
    obtain rfl : result = .ok () := hok.mp hexit
    obtain ⟨hkind, hauto, hproposes, hdetected⟩ := hregisters
    have hroot := Command.installRoot_of_resolved hkind hrun
    have hsave := Command.save_of_registered hauto hproposes hdetected hroot hrun
    unfold Configuration.save at hsave
    rw [hpath] at hsave
    -- The row is all that is new, so the settings make as much sense as before.
    exact Configuration.loadFrom_of_saveTo_tree hs hvalid hsave

end CommandLine

/-! ### A machine with settings -/

namespace ConfiguredMachine

open SmallMachine (environment surroundings)

/-- The machine with one JDK, and the settings in a file of it. -/
def holding (config : Configuration) : FileSystem :=
  SmallMachine.files.place ["config"] (.file ⟨(String.ofList config.lines).toUTF8, false, none⟩)

def files : FileSystem :=
  holding .standard

theorem isTree_machine : SmallMachine.files.IsTree :=
  .of_entries rfl (by
    simp only [SmallMachine.files, List.forall_mem_cons, List.not_mem_nil, false_implies,
      implies_true, and_true]
    exact ⟨rfl, rfl, rfl, rfl⟩)

theorem hasNoLinks_machine : SmallMachine.files.HasNoLinks :=
  .of_entries (by simp [SmallMachine.files])

theorem isTree_files : files.IsTree := by
  unfold files holding
  exact isTree_machine.place (by decide) rfl (by decide) _

theorem hasNoLinks_files : files.HasNoLinks := by
  unfold files holding
  exact hasNoLinks_machine.placed (by decide) (by simp)

/-- The file of the settings is no part of the JDK. -/
theorem outside : JdkHome.Outside SmallMachine.files ["config"] := by
  have houtside : JdkHome.Outside SmallMachine.files ([] ++ ["config"]) :=
    .of_hasNoLinks isTree_machine hasNoLinks_machine rfl (by decide)
      ⟨by decide, by decide, by decide⟩ (by decide) (by decide)
  exact houtside

/-! ### The settings -/

theorem filePath_eq : Configuration.filePath environment = .ok "/config" := by decide

theorem nodeAt?_config : files.nodeAt? ["config"] =
    some (.file ⟨(String.ofList Configuration.standard.lines).toUTF8, false, none⟩) := by
  unfold files holding
  rw [nodeAt?_place _ (by decide), if_pos rfl]

theorem canonicalize?_config : files.canonicalize? "/config" = some ["config"] := by
  have hname : IsName "config" := by decide
  exact canonicalize?_eq_some_iff.mpr
    ⟨["", "config"], rfl, .idle isIdle_empty (.file hname nodeAt?_config)⟩

theorem loads_settings : Configuration.loadFrom "/config" files = .ok .standard := by
  have hrender : Configuration.standard.render =
      .ok (String.ofList Configuration.standard.lines) := by
    rw [Configuration.render, if_neg (by decide)]
  have hvalid : Configuration.standard.validate = .ok () := by decide +kernel
  exact Configuration.loadFrom_of_saveTo_tree isTree_machine hvalid
    (Configuration.run_saveTo_config hrender fun node hnode => by cases hnode)

/-- The cache of the catalog, which is not there yet. -/
def cache : Cache := ⟨"/root/.jdkauto/cache", Configuration.standard.catalogTtl⟩

theorem catalogCache?_eq :
    Configuration.standard.catalogCache? surroundings.environment = .ok (some cache) := by
  change Configuration.standard.catalogCache? environment = .ok (some cache)
  decide

theorem avoids_settings : cache.Avoids catalogKey files ["config"] :=
  .of_hasNoLinks isTree_files hasNoLinks_files (by decide) (by decide)

/-- There is no entry to remove. -/
theorem discard_eq : cache.discard catalogKey files = files := by
  have hkey : '/' ∉ catalogKey.toList := by decide
  have hroot : IsName "root" := by decide
  have hstart : files.startOf (cache.path catalogKey) = [] := ite_self []
  have hmissing : files.canonicalize? (cache.path catalogKey) = none :=
    canonicalize?_eq_none rfl hstart hroot rfl
  exact hasNoLinks_files.removeFile_of_missing isTree_files (Cache.isComponent_file hkey) hmissing

/-! ### Runs -/

/-- The settings with the row of the JDK. -/
def registered : Configuration :=
  Command.withRegistration .standard SmallMachine.fix

theorem results_eq : SmallMachine.scanner.results files environment =
    [Scanner.detectedJdk SmallMachine.probe] := by
  unfold files holding
  rw [Scanner.results_place outside, SmallMachine.results_eq]

theorem resolvable?_eq : SmallMachine.sdk.resolvable? = some ⟨.major 17, none⟩ := by
  decide +kernel

theorem bestMatch?_eq : Requirement.bestMatch? ⟨.major 17, none⟩
    ((Scanner.ofConfiguration .standard environment).results files environment) =
      some (Scanner.detectedJdk SmallMachine.probe) := by
  change Requirement.bestMatch? _ (SmallMachine.scanner.results files environment) = _
  rw [results_eq]
  decide

theorem proposes_fix :
    Command.Proposes .standard surroundings SmallMachine.sdk true files
      (some (.localFix SmallMachine.fix)) :=
  Command.proposes_detected rfl rfl (fun _ => rfl) (fun _ => rfl) resolvable?_eq rfl bestMatch?_eq

theorem registers_fix : Command.Registers .standard surroundings files SmallMachine.fix
    (.resolve "17" "java" true false true false) :=
  .resolve rfl rfl proposes_fix rfl

theorem run_resolve :
    (((Command.resolve "17" "java" true false true false).perform .standard surroundings).run
      ⟨files, ""⟩).1 = .ok () := by
  have hroot : (Configuration.standard.installRoot environment).isOk = true := by decide
  -- The settings can be rendered, so that saving them over the old file succeeds.
  have hrender : registered.render = .ok (String.ofList registered.lines) := by
    rw [Configuration.render, if_neg (by decide)]
  have hsave : (registered.save environment).run files = (.ok (), files.place ["config"]
      (.file ⟨(String.ofList registered.lines).toUTF8, false, none⟩)) := by
    unfold Configuration.save
    rw [run_bind, filePath_eq]
    refine Configuration.run_saveTo_config hrender fun node hnode => ?_
    rw [nodeAt?_config] at hnode
    cases hnode
    exact ⟨_, rfl, rfl⟩
  have hsaved (printed : String) :
      ((Job.onFiles (registered.save environment)).run ⟨files, printed⟩).1 = .ok () := by
    rw [Command.run_onFiles, hsave]
  change ((Command.resolveSdk .standard surroundings SmallMachine.sdk true false true .lines).run
    ⟨files, ""⟩).1 = _
  -- From here on the run is that of `register`, with the save as its first step.
  rw [Command.run_resolveSdk_of_proposes rfl proposes_fix hroot, if_pos rfl,
    Command.register_detected rfl]
  change ((Job.onFiles (registered.save environment) >>= fun _ => _).run ⟨files, _⟩).1 = _
  rw [run_bind]
  split
  · rfl
  · rename_i e w hfailed
    have hok := hsaved ("" ++ Report.resolution SmallMachine.sdk
      (some (.localFix SmallMachine.fix)) none .lines)
    rw [hfailed] at hok
    cases hok

/-- A refresh leaves the settings as they are, and a resolution adds the row of the JDK to them. -/
theorem resolution_adds_row :
    (CommandLine.run ["ls-remote", "--refresh"] surroundings files).files.readBytes "/config" =
        files.readBytes "/config" ∧
      (CommandLine.run ["resolve", "17", "--offline", "--register"] surroundings files).exitCode =
        0 ∧
      Configuration.loadFrom "/config"
        (CommandLine.run ["resolve", "17", "--offline", "--register"] surroundings files).files =
          .ok { Configuration.standard with
            registrations := [⟨"17", "/jdk", some "17.0.2", Command.registrationNote⟩] } := by
  have hrefresh : CommandLine.parse ["ls-remote", "--refresh"] =
      .ok ⟨.listRemote true false, false⟩ := by
    decide
  have hresolve : CommandLine.parse ["resolve", "17", "--offline", "--register"] =
      .ok ⟨.resolve "17" "java" true false true false, false⟩ := by
    decide
  -- There is one cache in these settings, whatever the hypotheses call it.
  have hcache (other : Cache) (hother : Configuration.standard.catalogCache?
      surroundings.environment = .ok (some other)) : cache = other := by
    rw [catalogCache?_eq] at hother
    cases hother
    rfl
  have hexit : (CommandLine.run ["resolve", "17", "--offline", "--register"] surroundings
      files).exitCode = 0 :=
    (CommandLine.run_of_loaded hresolve filePath_eq loads_settings).2.mpr run_resolve
  have havoids (other : Cache) (hother : Configuration.standard.catalogCache?
      surroundings.environment = .ok (some other)) : other.Avoids catalogKey files ["config"] :=
    hcache other hother ▸ avoids_settings
  refine ⟨?_, hexit, ?_⟩
  · -- Refreshing the catalog is not a registration, so the first half of the theorem applies.
    have hnone : ¬ ∃ invocation fix, CommandLine.parse ["ls-remote", "--refresh"] =
        .ok invocation ∧ invocation.command.Registers .standard surroundings files fix := by
      rintro ⟨invocation, fix, hparse, hregisters⟩
      rw [hrefresh] at hparse
      cases hparse
      cases hregisters
    refine ((CommandLine.settings_change_only_by_registration isTree_files filePath_eq
      loads_settings canonicalize?_config havoids).1 hnone).2 fun other hother => ?_
    rw [← hcache other hother, discard_eq, canonicalize?_config]
  · exact (CommandLine.settings_change_only_by_registration isTree_files filePath_eq
      loads_settings canonicalize?_config havoids).2 _ SmallMachine.fix hresolve registers_fix hexit

end ConfiguredMachine

end JdkFinder
