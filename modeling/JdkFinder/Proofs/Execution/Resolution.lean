import JdkFinder.Execution
import JdkFinder.Proofs.Files.Changes
import JdkFinder.Proofs.Matching.Selection
import JdkFinder.Proofs.Session.Refinement

/-!
# Resolutions on the machine

What the command `resolve` comes to when the collaborators of its session work on the machine: a
proposal of a JDK is what the rows of the table, or else the JDKs of the scan, have to offer
(`Command.Proposes.resolveLocal`), and what they have to offer is proposed
(`Command.proposes_registered`, `Command.proposes_detected`).
-/

namespace JdkFinder

/-! ## §1 Runs of programs -/

section Runs

variable {σ α β : Type} {c : Collaborators σ}

theorem Program.run_bind (p : Program α) (next : α → Program β) (s : Session σ) :
    (p.bind next).run c s = match p.run c s with
      | (.ok a, t) => (next a).run c t
      | (.error e, t) => (.error e, t) := by
  -- On what the program still does: every question to the session may end it, and otherwise the
  -- rest runs on.
  induction p generalizing s with
  | done result => cases result <;> rfl
  | check rest ih =>
    simp only [bind, run]
    split
    · rfl
    · exact ih s
  | registered rest ih =>
    simp only [bind, run]
    rcases s.readTable c with ⟨e | list, t⟩
    · rfl
    · exact ih list t
  | detected rest ih =>
    simp only [bind, run]
    rcases s.detectedJdks c with ⟨e | list, t⟩
    · rfl
    · exact ih list t
  | catalog rest ih =>
    simp only [bind, run]
    rcases s.catalogJdks c with ⟨e | list, t⟩
    · rfl
    · exact ih list t

theorem Program.run_withRequirement (parse? : UnknownSdk → Option Requirement) (sdk : UnknownSdk)
    (declined : α) (next : Requirement → Program α) (s : Session σ) :
    (withRequirement parse? sdk declined next).run c s =
      if s.cancelled then (.error .cancelled, s)
      else (sdk.resolvableBy? parse?).elim (.ok declined, s) fun r => (next r).run c s := by
  simp only [withRequirement, run, UnknownSdk.resolvableBy?]
  split
  · rfl
  split
  · cases parse? sdk <;> rfl
  · rfl

end Runs

/-! ## §2 Lists on the machine -/

section Machine

variable {config : Configuration} {source : Option CatalogSource} {s : Surroundings}
  {t u : Session FileSystem}

theorem Surroundings.readTable_cases (s : Surroundings) (config : Configuration)
    (cancelled : Bool) (fs : FileSystem) :
    s.readTable config cancelled fs = .error .cancelled ∨
      s.readTable config cancelled fs =
        .ok (Registry.candidates config.registrations fs s.environment) := by
  rw [readTable, Registry.snapshot]
  split
  · exact .inl rfl
  · exact .inr rfl

theorem Surroundings.scan_cases (s : Surroundings) (config : Configuration) (cancelled : Bool)
    (fs : FileSystem) :
    s.scan config cancelled fs = .error .cancelled ∨
      s.scan config cancelled fs =
        .ok ((Scanner.ofConfiguration config s.environment).results fs s.environment) := by
  rw [scan, Scanner.scanKind, if_pos rfl, Scanner.scan]
  split
  · exact .inl rfl
  · exact .inr rfl

/-- Reading the table leaves the files alone, and gives the candidates of all rows if it is not
cancelled. -/
theorem Session.readTable_onMachine {list : List RegisteredJdk}
    (h : t.readTable (.onMachine config source s) = (.ok list, u)) :
    list = Registry.candidates config.registrations t.world s.environment ∧
      u.world = t.world ∧ u.detected = t.detected := by
  rcases s.readTable_cases config t.cancelled t.world with hreply | hreply
  · simp only [readTable, Collaborators.onMachine, hreply, TableReply.list, orEmpty] at h
    cases h
  · simp only [readTable, Collaborators.onMachine, hreply, TableReply.list] at h
    cases h
    exact ⟨rfl, rfl, rfl⟩

/-- Nothing but a cancellation keeps the rows back. -/
theorem Session.readTable_onMachine_served (hcancelled : t.cancelled = false)
    (hreading : ∀ look, s.interruption.whileReading look = false) :
    ∃ u, t.readTable (.onMachine config source s) =
      (.ok (Registry.candidates config.registrations t.world s.environment), u) ∧
        u.world = t.world ∧ u.detected = t.detected ∧ u.cancelled = false := by
  have htable : s.readTable config t.cancelled t.world =
      .ok (Registry.candidates config.registrations t.world s.environment) := by
    rw [Surroundings.readTable, Registry.snapshot, if_neg]
    simp [hcancelled, hreading]
  have hreply : (Collaborators.onMachine config source s).readTable t.cancelled t.world =
      ((.served (Registry.candidates config.registrations t.world s.environment), false),
        t.world) := by
    simp only [Collaborators.onMachine, htable]
  rw [readTable, hreply, hcancelled]
  exact ⟨_, rfl, rfl, rfl, rfl⟩

/-- A scan that is the first of its session leaves the files alone, and gives all JDKs if it is not
cancelled. -/
theorem Session.detectedJdks_onMachine {list : List DetectedJdk} (hfirst : t.detected = .empty)
    (h : t.detectedJdks (.onMachine config source s) = (.ok list, u)) :
    list = (Scanner.ofConfiguration config s.environment).results t.world s.environment ∧
      u.world = t.world := by
  have hkept : t.detected.kept = none := by rw [hfirst]; rfl
  cases hcancelled : t.cancelled with
  | true =>
    -- A token that is cancelled gives no list, so this call cannot have returned one.
    simp only [detectedJdks, detectedSupply, Supply.await, hkept, hcancelled, ↓reduceIte] at h
    cases h
  | false =>
    simp only [detectedJdks, detectedSupply, Supply.await, hkept, hcancelled, Bool.false_eq_true,
      ↓reduceIte, Supply.attempt, Collaborators.onMachine, Future.race] at h
    -- The scan is run at once, and either it is cut short or it is the scan of the configured
    -- roots.
    rcases s.scan_cases config false t.world with hscan | hscan
    · rw [hscan] at h
      cases h
    · rw [hscan] at h
      cases h
      exact ⟨rfl, rfl⟩

/-- A scan that nothing cancels gives all JDKs. -/
theorem Session.detectedJdks_onMachine_served (hfirst : t.detected = .empty)
    (hcancelled : t.cancelled = false)
    (hscanning : ∀ look, s.interruption.whileScanning look = false) :
    ∃ u, t.detectedJdks (.onMachine config source s) =
      (.ok ((Scanner.ofConfiguration config s.environment).results t.world s.environment), u) := by
  have hkept : t.detected.kept = none := by
    rw [hfirst]
    rfl
  have hscan : s.scan config false t.world =
      .ok ((Scanner.ofConfiguration config s.environment).results t.world s.environment) := by
    rw [Surroundings.scan, Scanner.scanKind, if_pos rfl, Scanner.scan, if_neg]
    simp [hscanning]
  refine ⟨(t.detectedJdks (.onMachine config source s)).2, ?_⟩
  simp only [detectedJdks, detectedSupply, Supply.await, hkept, hcancelled, Bool.false_eq_true,
    ↓reduceIte, Supply.attempt, Collaborators.onMachine, Future.race, hscan]
  rfl

/-! ## §3 Outcomes on the machine -/

/-- A proposal of a JDK on the machine leaves the files alone; it is what the rows of the table, or
else the JDKs of the scan, have to offer. -/
theorem Program.run_resolve_local {sdk : UnknownSdk} {cancelled : Bool} {fs : FileSystem}
    {fix : LocalFix}
    (h : (resolve UnknownSdk.requirement? sdk).run (.onMachine config source s)
      (.start cancelled fs) = (.ok (some (.localFix fix)), t)) :
    t.world = fs ∧ ∃ r, sdk.resolvable? = some r ∧
      r.resolveLocal (Registry.candidates config.registrations fs s.environment)
        ((Scanner.ofConfiguration config s.environment).results fs s.environment) = some fix := by
  have hstart : (Session.start cancelled fs).world = fs := rfl
  rw [resolve, run_bind] at h
  rcases hrun : (localFix UnknownSdk.requirement? sdk).run (.onMachine config source s)
    (.start cancelled fs) with ⟨e | found, u⟩
  · rw [hrun] at h
    cases h
  rw [hrun] at h
  cases found with
  | none =>
    -- A download is no JDK on this machine.
    dsimp only at h
    rw [Program.map, run_bind] at h
    split at h
    · rename_i jdk v hdownload
      cases jdk <;> cases h
    · cases h
  | some found =>
    cases h
    rw [localFix, run_withRequirement] at hrun
    split at hrun
    · cases hrun
    cases hsdk : sdk.resolvableBy? UnknownSdk.requirement? with
    | none =>
      rw [hsdk] at hrun
      cases hrun
    | some r =>
      rw [hsdk, Option.elim_some, run] at hrun
      split at hrun
      · rename_i list v htable
        obtain ⟨hlist, hworld, hfirst⟩ := Session.readTable_onMachine htable
        rw [hstart] at hlist hworld
        subst hlist
        split at hrun
        · -- A row meets the requirement, and the machine is not scanned.
          rename_i jdk hjdk
          cases hrun
          exact ⟨hworld, r, hsdk, by rw [Requirement.resolveLocal, hjdk]⟩
        · rename_i hnone
          rw [run] at hrun
          split at hrun
          · rename_i jdks v' hscan
            obtain ⟨rfl, hworld'⟩ := Session.detectedJdks_onMachine hfirst hscan
            rw [hworld] at hrun hworld'
            simp only [value, run, Prod.mk.injEq, Except.ok.injEq] at hrun
            obtain ⟨hfix, rfl⟩ := hrun
            exact ⟨hworld', r, hsdk, by rw [Requirement.resolveLocal, hnone, hfix]⟩
          · cases hrun
      · cases hrun

/-- A JDK that was detected is proposed only if no row meets the requirement. -/
theorem Requirement.resolveLocal_detected {r : Requirement} {registered : List RegisteredJdk}
    {detected : List DetectedJdk} {fix : LocalFix}
    (h : r.resolveLocal registered detected = some fix) (hdetected : fix.origin = .detected) :
    r.Declines registered ∧ ∃ jdk, r.bestMatch? detected = some jdk ∧ fix = .ofDetected jdk := by
  unfold resolveLocal at h
  split at h
  · cases h
    cases hdetected
  · rename_i hnone
    obtain ⟨jdk, hjdk, rfl⟩ := Option.map_eq_some_iff.mp h
    exact ⟨bestMatch?_eq_none_iff.mp hnone, jdk, hjdk, rfl⟩

/-- The rows are read, and the machine is scanned only if none of them meets the requirement. -/
theorem Program.run_localFix_served (config : Configuration) (source : Option CatalogSource)
    {sdk : UnknownSdk} (fs : FileSystem) {r : Requirement} (hsdk : sdk.resolvable? = some r)
    (hreading : ∀ look, s.interruption.whileReading look = false) :
    ∃ t, t.world = fs ∧ t.detected = .empty ∧ t.cancelled = false ∧
      (∀ jdk, r.bestMatch? (Registry.candidates config.registrations fs s.environment) = some jdk →
        (localFix UnknownSdk.requirement? sdk).run (.onMachine config source s)
          (.start false fs) = (.ok (some (.ofRegistered jdk)), t)) ∧
      (r.bestMatch? (Registry.candidates config.registrations fs s.environment) = none →
        (localFix UnknownSdk.requirement? sdk).run (.onMachine config source s)
          (.start false fs) =
            (detected fun jdks => value ((r.bestMatch? jdks).map .ofDetected)).run
              (.onMachine config source s) t) := by
  obtain ⟨t, htable, hworld, hfirst, hcancelled⟩ : ∃ t, (Session.start false fs).readTable
      (.onMachine config source s) =
        (.ok (Registry.candidates config.registrations fs s.environment), t) ∧
          t.world = fs ∧ t.detected = .empty ∧ t.cancelled = false :=
    Session.readTable_onMachine_served rfl hreading
  refine ⟨t, hworld, hfirst, hcancelled, ?_, ?_⟩
  all_goals
    -- Both halves start with the check of the token and the same look at the table.
    have hrequirement : sdk.resolvableBy? UnknownSdk.requirement? = some r := hsdk
    have hstart : ¬ (Session.start false fs).cancelled = true := Bool.false_ne_true
    rw [localFix, run_withRequirement, if_neg hstart, hrequirement, Option.elim_some, run, htable]
  · intro jdk hjdk
    simp only [hjdk, value, run]
  · intro hnone
    simp only [hnone]

/-- A row that meets the requirement is proposed. -/
theorem Program.run_resolve_registered {sdk : UnknownSdk} {fs : FileSystem} {r : Requirement}
    {jdk : RegisteredJdk} (hsdk : sdk.resolvable? = some r)
    (hreading : ∀ look, s.interruption.whileReading look = false)
    (hbest : r.bestMatch? (Registry.candidates config.registrations fs s.environment) = some jdk) :
    ((resolve UnknownSdk.requirement? sdk).run (.onMachine config source s) (.start false fs)).1 =
      .ok (some (.localFix (.ofRegistered jdk))) := by
  obtain ⟨t, -, -, -, hregistered, -⟩ := run_localFix_served config source fs hsdk hreading
  rw [resolve, run_bind, hregistered jdk hbest]
  simp only [value, run]

/-- A JDK on the machine that meets the requirement is proposed if no row does. -/
theorem Program.run_resolve_detected {sdk : UnknownSdk} {fs : FileSystem} {r : Requirement}
    {jdk : DetectedJdk} (hsdk : sdk.resolvable? = some r)
    (hreading : ∀ look, s.interruption.whileReading look = false)
    (hscanning : ∀ look, s.interruption.whileScanning look = false)
    (hnone : r.bestMatch? (Registry.candidates config.registrations fs s.environment) = none)
    (hbest : r.bestMatch? ((Scanner.ofConfiguration config s.environment).results fs
      s.environment) = some jdk) :
    ((resolve UnknownSdk.requirement? sdk).run (.onMachine config source s) (.start false fs)).1 =
      .ok (some (.localFix (.ofDetected jdk))) := by
  obtain ⟨t, hworld, hfirst, hcancelled, -, hscanned⟩ :=
    run_localFix_served config source fs hsdk hreading
  obtain ⟨u, hscan⟩ : ∃ u, t.detectedJdks (.onMachine config source s) = (.ok _, u) :=
    Session.detectedJdks_onMachine_served hfirst hcancelled hscanning
  rw [hworld] at hscan
  rw [resolve, run_bind, hscanned hnone]
  simp only [run, hscan, value, hbest, Option.map_some]

end Machine

/-! ## §4 The command -/

namespace Command

variable {config : Configuration} {s : Surroundings} {sdk : UnknownSdk} {offline : Bool}

theorem java_of_resolvable? {r : Requirement} (h : sdk.resolvable? = some r) :
    sdk.kind = .java := by
  by_contra hother
  rw [UnknownSdk.resolvable?, if_neg hother] at h
  cases h

/-- A resolution comes to an outcome. -/
def Proposes (config : Configuration) (s : Surroundings) (sdk : UnknownSdk) (offline : Bool)
    (fs : FileSystem) (outcome : Option Outcome) : Prop :=
  ∃ source, sourceOf config s offline = .ok source ∧
    ((Program.resolve UnknownSdk.requirement? sdk).run (.onMachine config source s)
      (.start s.interruption.atStart fs)).1 = .ok outcome

theorem Proposes.resolveLocal {fs : FileSystem} {fix : LocalFix}
    (h : Proposes config s sdk offline fs (some (.localFix fix))) :
    ∃ r, sdk.resolvable? = some r ∧
      r.resolveLocal (Registry.candidates config.registrations fs s.environment)
        ((Scanner.ofConfiguration config s.environment).results fs s.environment) = some fix := by
  obtain ⟨source, -, hresult⟩ := h
  rcases hrun : (Program.resolve UnknownSdk.requirement? sdk).run (.onMachine config source s)
    (.start s.interruption.atStart fs) with ⟨result, t⟩
  rw [hrun] at hresult
  obtain rfl : result = .ok (some (.localFix fix)) := hresult
  exact (Program.run_resolve_local hrun).2

/-- A row that meets the requirement is proposed, if the resolution is not interrupted. -/
theorem proposes_registered {fs : FileSystem} {r : Requirement} {jdk : RegisteredJdk}
    (hsource : (sourceOf config s offline).isOk = true)
    (hstarts : s.interruption.atStart = false)
    (hreads : ∀ look, s.interruption.whileReading look = false)
    (hsdk : sdk.resolvable? = some r)
    (hbest : r.bestMatch? (Registry.candidates config.registrations fs s.environment) = some jdk) :
    Proposes config s sdk offline fs (some (.localFix (.ofRegistered jdk))) := by
  cases hresult : sourceOf config s offline with
  | error e =>
    rw [hresult] at hsource
    cases hsource
  | ok source =>
    refine ⟨source, hresult, ?_⟩
    rw [hstarts]
    exact Program.run_resolve_registered hsdk hreads hbest

/-- A JDK of the scan that meets the requirement is proposed if no row does and the resolution is
not interrupted. -/
theorem proposes_detected {fs : FileSystem} {r : Requirement} {jdk : DetectedJdk}
    (hsource : (sourceOf config s offline).isOk = true)
    (hstarts : s.interruption.atStart = false)
    (hreads : ∀ look, s.interruption.whileReading look = false)
    (hscans : ∀ look, s.interruption.whileScanning look = false)
    (hsdk : sdk.resolvable? = some r)
    (hnone : r.bestMatch? (Registry.candidates config.registrations fs s.environment) = none)
    (hbest : r.bestMatch? ((Scanner.ofConfiguration config s.environment).results fs
      s.environment) = some jdk) :
    Proposes config s sdk offline fs (some (.localFix (.ofDetected jdk))) := by
  cases hresult : sourceOf config s offline with
  | error e =>
    rw [hresult] at hsource
    cases hsource
  | ok source =>
    refine ⟨source, hresult, ?_⟩
    rw [hstarts]
    exact Program.run_resolve_detected hsdk hreads hscans hnone hbest

theorem run_inSession {α : Type} (c : Collaborators FileSystem) (program : Program α)
    (w : Workspace) :
    (inSession c s program).run w =
      ((program.run c (.start s.interruption.atStart w.files)).1,
        { w with files := (program.run c (.start s.interruption.atStart w.files)).2.world }) :=
  rfl

theorem run_onFiles {α : Type} (action : Action α) (w : Workspace) :
    (Job.onFiles action).run w =
      ((action.run w.files).1, { w with files := (action.run w.files).2 }) :=
  rfl

theorem run_ofExcept_bind {α β : Type} (a : α) (next : α → Job β) (w : Workspace) :
    (Job.ofExcept (.ok a) >>= next).run w = (next a).run w :=
  rfl

theorem run_ofExcept_eq_ok {α : Type} {result : Except Error α} {a : α} {w w' : Workspace}
    (h : (Job.ofExcept result).run w = (.ok a, w')) : result = .ok a ∧ w' = w :=
  ⟨congrArg Prod.fst h, (congrArg Prod.snd h).symm⟩

/-- What the command does after it has come to a proposal: it shows it, and registers it if that is
asked for. -/
theorem run_resolveSdk_of_proposes {fix : LocalFix} {w : Workspace}
    (hauto : config.autoSetup = true)
    (hproposes : Proposes config s sdk offline w.files (some (.localFix fix)))
    (hroot : (config.installRoot s.environment).isOk = true) (registers : Bool)
    (style : ReportStyle) :
    (resolveSdk config s sdk offline false registers style).run w =
      (if registers then register config s style (some (.localFix fix)) else pure () : Job Unit).run
        { w with printed := w.printed ++
            Report.resolution sdk (some (.localFix fix)) none style } := by
  obtain ⟨source, hsource, hresult⟩ := hproposes
  rcases hrun : (Program.resolve UnknownSdk.requirement? sdk).run (.onMachine config source s)
    (.start s.interruption.atStart w.files) with ⟨result, t⟩
  rw [hrun] at hresult
  obtain rfl : result = .ok (some (.localFix fix)) := hresult
  obtain ⟨hworld, r, hsdk, -⟩ := Program.run_resolve_local hrun
  have hkind := java_of_resolvable? hsdk
  -- The directory of installs is read even when nothing is installed.
  obtain ⟨root, hroot⟩ : ∃ root, config.installRoot s.environment = .ok root := by
    cases hdirectory : config.installRoot s.environment with
    | ok root => exact ⟨root, rfl⟩
    | error e =>
      rw [hdirectory] at hroot
      cases hroot
  -- Running the whole resolution in a session of its own leaves the files as they are.
  have hsession : (inSession (.onMachine config source s) s
      (Program.resolve (Collaborators.onMachine config source s).parse? sdk)).run w =
        (.ok (some (.localFix fix)), w) := by
    change (inSession _ s (Program.resolve UnknownSdk.requirement? sdk)).run w = _
    rw [run_inSession, hrun, hworld]
  unfold resolveSdk
  rw [if_neg (by simp [hkind]), hsource, run_ofExcept_bind, hroot, run_ofExcept_bind]
  simp only [hauto, Bool.not_true, Bool.false_eq_true, ↓reduceIte]
  rw [run_bind, hsession]
  rfl

end Command

end JdkFinder
