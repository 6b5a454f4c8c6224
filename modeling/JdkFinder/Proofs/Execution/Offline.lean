import JdkFinder.Proofs.Execution.Footprint
import JdkFinder.Proofs.Session.Laziness
import JdkFinder.Proofs.Session.Listing

/-!
# Sessions that stay offline

A session without a catalog answers as one with a catalog does, but for what would have to be
downloaded (`Session.offline_is_online_without_downloads`).  What is on the machine is looked up
without regard to the catalog, so neither what the catalog gives nor how it fails makes a difference
to it.
-/

namespace JdkFinder

open FileSystem

/-! ## §1 Requirements without a catalog -/

/-- Whether nothing has to be downloaded. -/
def Candidate.isLocal : Candidate → Bool
  | registered _ => true
  | detected _ => true
  | downloadable _ => false

namespace Requirement

variable (r : Requirement) (registered : List RegisteredJdk) (detected : List DetectedJdk)
  (catalog : List DownloadableJdk)

/-- Without a catalog an outcome is the same if it is on the machine, and there is none
otherwise. -/
theorem resolve_nil : r.resolve registered detected [] =
    (r.resolve registered detected catalog).filter Outcome.isLocal := by
  unfold resolve
  cases r.resolveLocal registered detected with
  | some fix => rfl
  | none =>
    have hnone : r.resolveDownload [] = none := rfl
    rw [hnone]
    cases r.resolveDownload catalog <;> rfl

/-- Without a catalog the candidates on the machine are listed as they are with one. -/
theorem listing_nil : r.listing registered detected [] =
    (r.listing registered detected catalog).filter Candidate.isLocal := by
  have hregistered : ((registered.filter r.admits).map Candidate.registered).filter
      Candidate.isLocal = (registered.filter r.admits).map .registered := by
    rw [List.filter_map]
    exact congrArg _ (List.filter_eq_self.mpr fun _ _ => rfl)
  have hdetected : ((detected.filter r.admits).map Candidate.detected).filter
      Candidate.isLocal = (detected.filter r.admits).map .detected := by
    rw [List.filter_map]
    exact congrArg _ (List.filter_eq_self.mpr fun _ _ => rfl)
  have hcatalog : ((catalog.filter r.admits).map Candidate.downloadable).filter
      Candidate.isLocal = [] := by
    rw [List.filter_map, List.map_eq_nil_iff]
    exact List.filter_eq_nil_iff.mpr fun _ _ => Bool.false_ne_true
  rw [listing, listing, List.filter_append, List.filter_append, hregistered, hdetected, hcatalog,
    List.filter_nil, List.map_nil]

end Requirement

/-! ## §2 Fetches that nothing cancels -/

theorem Feed.not_cancelled_of_parse {text : String} {platform : Platform} {e : Error}
    (h : parse text platform = .error e) : e.isCancelled = false := by
  unfold parse at h
  split at h
  · cases h
  · cases h
    rfl

theorem not_cancelled_of_downloadText {url : String} {web : Web} {fs : FileSystem} {e : Error}
    (h : downloadText url web fs = .error e) : e.isCancelled = false := by
  -- An error of a download is built from its cause, and no way of building it says that it was
  -- cancelled.
  have hmapped {ε α : Type} {result : Except ε α} {f : ε → Error}
      (hf : ∀ cause, (f cause).isCancelled = false) (h : result.mapError f = .error e) :
      e.isCancelled = false := by
    cases result with
    | ok text => cases h
    | error cause =>
      cases h
      exact hf cause
  unfold downloadText at h
  split at h
  · cases h
    rfl
  split at h
  · split at h
    · cases h
      rfl
    · exact hmapped (fun _ => rfl) h
  · exact hmapped (fun _ => rfl) h

/-- Unless it is cancelled, a fetch fails for other reasons only. -/
theorem CatalogSource.not_cancelled_of_fetch {source : CatalogSource} {c : FetchCircumstances}
    {fs : FileSystem} {e : Error} (hnever : c.interruption = .never)
    (h : ((source.fetch c).run fs).1 = .error e) : e.isCancelled = false := by
  rcases hrun : (source.fetch c).run fs with ⟨result, fs'⟩
  rw [hrun] at h
  -- Without an interruption only the download and the parse can fail, and neither says it was
  -- cancelled.
  cases fetches_of_run hrun with
  | cancelled hstart =>
    rw [hnever] at hstart
    cases hstart
  | cached => exact Feed.not_cancelled_of_parse h
  | failed _ _ hdownload =>
    cases h
    rw [download, if_neg (by simp [hnever])] at hdownload
    exact not_cancelled_of_downloadText hdownload
  | rejected _ _ _ hparse =>
    cases h
    exact Feed.not_cancelled_of_parse hparse
  | downloaded => cases h

/-! ## §3 The lists of a session -/

/-- Waiting for a list that a collaborator gives at once. -/
theorem Supply.await_ready {σ β : Type} {p : Supply σ β} {start : σ → Future (List β) × σ}
    {result : Except Error (List β)} {world : σ} {list : List β}
    (hstart : start p.world = (.ready false result, world)) (hkept : p.memo.kept = none)
    (hactive : p.cancelled = false) (hresult : orEmpty result = .ok list) :
    ∃ history, p.await start = (.ok list, ⟨⟨some list, history⟩, false, false, world⟩) := by
  refine ⟨p.memo.history ++ [.begun (.ready false result)] ++ [.ended result], ?_⟩
  simp only [await, hkept, hactive, Bool.false_eq_true, ↓reduceIte, attempt, hstart, Future.race,
    Memo.attempt, Memo.conclude, hresult]
  rfl

/-- The catalog as a session gets it: a failure counts as an empty list. -/
def Surroundings.catalog (s : Surroundings) (source : Option CatalogSource) (fs : FileSystem) :
    List DownloadableJdk :=
  match source with
  | none => []
  | some source => ((source.fetch s.fetchCircumstances).run fs).1.toOption.getD []

/-- The files after a fetch. -/
def Surroundings.filesFetched (s : Surroundings) (source : Option CatalogSource)
    (fs : FileSystem) : FileSystem :=
  match source with
  | none => fs
  | some source => ((source.fetch s.fetchCircumstances).run fs).2

/-- Both file systems show the same JDKs, whether registered or found by a scan. -/
structure Configuration.ShowsAlike (config : Configuration) (env : Environment)
    (fs fs' : FileSystem) : Prop where
  registered : Registry.candidates config.registrations fs' env =
    Registry.candidates config.registrations fs env
  detected : (Scanner.ofConfiguration config env).results fs' env =
    (Scanner.ofConfiguration config env).results fs env

namespace Configuration.ShowsAlike

variable {config : Configuration} {env : Environment} {fs : FileSystem} {place : Location}

theorem refl (config : Configuration) (env : Environment) (fs : FileSystem) :
    config.ShowsAlike env fs fs :=
  ⟨rfl, rfl⟩

theorem of_outside (h : JdkHome.Outside fs place) (file : RegularFile) :
    config.ShowsAlike env fs (fs.place place (.file file)) :=
  ⟨Registry.candidates_place h file _ env, Scanner.results_place h file _ env⟩

end Configuration.ShowsAlike

namespace Session

/-- A session that nobody cancels has come so far: it may have scanned the machine, and it may have
fetched the catalog, which may have changed the files. -/
structure Serves (config : Configuration) (source : Option CatalogSource) (s : Surroundings)
    (fs : FileSystem) (t : Session FileSystem) : Prop where
  active : t.cancelled = false
  detected : t.detected.kept = none ∨
    t.detected.kept = some ((Scanner.ofConfiguration config s.environment).results fs s.environment)
  catalog : t.catalog.kept = none ∧ t.world = fs ∨
    t.catalog.kept = some (s.catalog source fs) ∧ t.world = s.filesFetched source fs

section Lists

variable {config : Configuration} {source : Option CatalogSource} {s : Surroundings}
  {fs : FileSystem} {t : Session FileSystem}

theorem serves_start : (start false fs).Serves config source s fs :=
  ⟨rfl, .inl rfl, .inl ⟨rfl, rfl⟩⟩

/-- The files show the same JDKs as at the start. -/
theorem Serves.showsAlike (h : t.Serves config source s fs)
    (hunseen : t.world = fs ∨ config.ShowsAlike s.environment fs (s.filesFetched source fs)) :
    config.ShowsAlike s.environment fs t.world := by
  rcases hunseen with hworld | hunseen
  · rw [hworld]
    exact .refl config s.environment fs
  -- The files are those of the start, or those after the fetch.
  rcases h.catalog with ⟨-, hworld⟩ | ⟨-, hworld⟩
  · rw [hworld]
    exact .refl config s.environment fs
  · rwa [hworld]

variable (hquiet : s.interruption = .none)

include hquiet

/-- The table gives the candidates of all rows. -/
theorem Serves.readTable (h : t.Serves config source s fs)
    (hsame : config.ShowsAlike s.environment fs t.world) :
    ∃ u, t.readTable (.onMachine config source s) =
        (.ok (Registry.candidates config.registrations fs s.environment), u) ∧
      u.world = t.world ∧ u.Serves config source s fs := by
  have hreading (look : Nat) : s.interruption.whileReading look = false := by rw [hquiet]; rfl
  obtain ⟨u, hread, hworld, hdetected, hactive⟩ : ∃ u, t.readTable (.onMachine config source s) =
      (.ok (Registry.candidates config.registrations t.world s.environment), u) ∧
        u.world = t.world ∧ u.detected = t.detected ∧ u.cancelled = false :=
    readTable_onMachine_served h.active hreading
  refine ⟨u, by rw [hread, hsame.registered], hworld, hactive, by rw [hdetected]; exact h.detected,
    ?_⟩
  obtain ⟨-, hcatalog⟩ := world_of_readTable hread
  rw [hcatalog, hworld]
  exact h.catalog

/-- A scan gives all JDKs. -/
theorem Serves.detectedJdks (h : t.Serves config source s fs)
    (hsame : config.ShowsAlike s.environment fs t.world) :
    ∃ u, t.detectedJdks (.onMachine config source s) =
        (.ok ((Scanner.ofConfiguration config s.environment).results fs s.environment), u) ∧
      u.world = t.world ∧ u.Serves config source s fs := by
  -- The list is scanned for now, or an earlier call has left it in the session.
  rcases h.detected with hkept | hkept
  · have hscan : s.scan config false t.world =
        .ok ((Scanner.ofConfiguration config s.environment).results fs s.environment) := by
      rw [Surroundings.scan, Scanner.scanKind, if_pos rfl, Scanner.scan, if_neg, hsame.detected]
      simp [hquiet, Interruption.none]
    have hstart : (Collaborators.onMachine config source s).scan t.world =
        (.ready false (s.scan config false t.world), t.world) := by
      simp only [Collaborators.onMachine, hscan]
      rfl
    obtain ⟨history, hawait⟩ := Supply.await_ready (p := t.detectedSupply false) hstart hkept
      h.active (by rw [hscan]; rfl)
    refine ⟨t.withDetected ⟨⟨some _, history⟩, false, false, t.world⟩, ?_, rfl, rfl, .inr rfl,
      h.catalog⟩
    simp only [Session.detectedJdks, hawait]
  · refine ⟨t, ?_, rfl, h⟩
    simp only [Session.detectedJdks, Supply.await, detectedSupply, hkept]
    rfl

/-- What a fetch gives counts as the catalog. -/
theorem fetch_onMachine_served (config : Configuration) (source : Option CatalogSource)
    (fs : FileSystem) :
    ∃ result, (Collaborators.onMachine config source s).fetch fs =
        (.ready false result, s.filesFetched source fs) ∧
      orEmpty result = .ok (s.catalog source fs) := by
  cases source with
  | none => exact ⟨.ok [], rfl, rfl⟩
  | some source =>
    have hnever : s.fetchCircumstances.interruption = .never := by
      rw [Surroundings.fetchCircumstances, hquiet]
      rfl
    rcases hrun : (source.fetch s.fetchCircumstances).run fs with ⟨e | list, fetched⟩
    all_goals
      simp only [Collaborators.onMachine, Surroundings.filesFetched, Surroundings.catalog, hrun]
    · -- Only a fetch that was cancelled does not count as an empty catalog.
      have hother : e.isCancelled = false :=
        CatalogSource.not_cancelled_of_fetch hnever (congrArg Prod.fst hrun)
      exact ⟨.error e, by rw [← hother]; rfl, by rw [orEmpty, hother]; rfl⟩
    · exact ⟨.ok list, rfl, rfl⟩

/-- A fetch gives the catalog. -/
theorem Serves.catalogJdks (h : t.Serves config source s fs) :
    ∃ u, t.catalogJdks (.onMachine config source s) = (.ok (s.catalog source fs), u) ∧
      u.Serves config source s fs := by
  rcases h.catalog with ⟨hkept, hworld⟩ | ⟨hkept, -⟩
  · obtain ⟨result, hfetch, hresult⟩ := fetch_onMachine_served hquiet config source fs
    rw [← hworld] at hfetch
    obtain ⟨history, hawait⟩ := Supply.await_ready (p := t.catalogSupply false) hfetch hkept
      h.active hresult
    refine ⟨t.withCatalog ⟨⟨some _, history⟩, false, false, s.filesFetched source t.world⟩, ?_,
      rfl, h.detected, .inr ⟨rfl, by rw [hworld]; rfl⟩⟩
    simp only [Session.catalogJdks, hawait]
  · exact ⟨t, catalogJdks_of_kept hkept, h⟩

end Lists

end Session

/-! ## §4 Answers -/

/-- Once the catalog has been asked for, nothing else is. -/
def Program.FetchesLast {α : Type} : Program α → Prop
  | .done _ => True
  | .check next => next.FetchesLast
  | .registered next => ∀ list, (next list).FetchesLast
  | .detected next => ∀ list, (next list).FetchesLast
  | .catalog next => ∀ list, ∃ result, next list = .done result

section Answers

variable {α β : Type} {config : Configuration} {source : Option CatalogSource} {s : Surroundings}
  {fs : FileSystem} {t : Session FileSystem}

theorem Program.FetchesLast.map {p : Program α} (h : p.FetchesLast) (f : α → β) :
    (p.map f).FetchesLast := by
  induction p with
  | done result => cases result <;> exact trivial
  | check next ih => exact ih h
  | registered next ih => exact fun list => ih list (h list)
  | detected next ih => exact fun list => ih list (h list)
  | catalog next ih =>
    -- Behind the look at the catalog the program ends, and so does its image.
    intro list
    obtain ⟨result, hresult⟩ := h list
    have hmapped : (next list).map f = .done (result.map f) := by
      rw [hresult]
      cases result <;> rfl
    exact ⟨_, hmapped⟩

/-- Unless it is cancelled, a program answers for the lists that its session serves.  If the files
look different after a fetch, the program must not look at them then. -/
theorem Program.run_of_serves (hquiet : s.interruption = .none) (p : Program α)
    (h : t.Serves config source s fs)
    (hunseen : t.world = fs ∧ p.FetchesLast ∨
      config.ShowsAlike s.environment fs (s.filesFetched source fs)) :
    (p.run (.onMachine config source s) t).1 =
        p.answerFor (Registry.candidates config.registrations fs s.environment)
          ((Scanner.ofConfiguration config s.environment).results fs s.environment)
          (s.catalog source fs) ∧
      (p.run (.onMachine config source s) t).2.Serves config source s fs := by
  -- Each call gets the list that is served and leaves a session that serves the same lists.
  induction p generalizing t with
  | done result => exact ⟨rfl, h⟩
  | check next ih =>
    simp only [run, h.active, Bool.false_eq_true, ↓reduceIte]
    exact ih h hunseen
  | registered next ih =>
    obtain ⟨u, hread, hworld, hserves⟩ :=
      h.readTable hquiet (h.showsAlike (hunseen.imp_left And.left))
    simp only [run, hread]
    exact ih _ hserves (hunseen.imp_left fun hlast => ⟨hworld.trans hlast.1, hlast.2 _⟩)
  | detected next ih =>
    obtain ⟨u, hscan, hworld, hserves⟩ :=
      h.detectedJdks hquiet (h.showsAlike (hunseen.imp_left And.left))
    simp only [run, hscan]
    exact ih _ hserves (hunseen.imp_left fun hlast => ⟨hworld.trans hlast.1, hlast.2 _⟩)
  | catalog next ih =>
    obtain ⟨u, hask, hserves⟩ := h.catalogJdks hquiet
    simp only [run, hask]
    rcases hunseen with ⟨-, hlast⟩ | hunseen
    · -- From here on the files may be others, but the program looks at nothing any more.
      obtain ⟨result, hresult⟩ := hlast (s.catalog source fs)
      rw [answerFor, hresult]
      exact ⟨rfl, hserves⟩
    · exact ih _ hserves (.inr hunseen)

variable (parse? : UnknownSdk → Option Requirement) (sdk : UnknownSdk)

theorem Program.candidates_fetchesLast : (candidates parse? sdk).FetchesLast := by
  cases hsdk : sdk.resolvableBy? parse? with
  | none =>
    rw [candidates, withRequirement_of_none hsdk]
    exact trivial
  | some r =>
    rw [candidates, withRequirement_of_some hsdk]
    exact fun registered detected catalog => ⟨_, rfl⟩

theorem Program.resolve_fetchesLast : (resolve parse? sdk).FetchesLast := by
  cases hsdk : sdk.resolvableBy? parse? with
  | none =>
    rw [resolve, localFix, download, withRequirement_of_none hsdk, withRequirement_of_none hsdk]
    exact trivial
  | some r =>
    have hdownload : (download parse? sdk).FetchesLast := by
      rw [download, withRequirement_of_some hsdk]
      exact fun list => ⟨_, rfl⟩
    rw [resolve, localFix, withRequirement_of_some hsdk]
    intro registered
    dsimp only
    cases r.bestMatch? registered with
    | some jdk => exact trivial
    | none =>
      -- The catalog comes last, and only if nothing is found on the machine.
      intro detected
      simp only [value, bind]
      cases r.bestMatch? detected with
      | some jdk => exact trivial
      | none => exact hdownload.map _

end Answers

/-! ## §5 Two sessions -/

namespace Session

variable {config : Configuration} {source : Option CatalogSource} {s : Surroundings}
  {fs : FileSystem} {t : Session FileSystem}

theorem Serves.afterCalls (hquiet : s.interruption = .none) (h : t.Serves config source s fs)
    (hunseen : config.ShowsAlike s.environment fs (s.filesFetched source fs)) (calls : List Call) :
    (t.afterCalls (.onMachine config source s) calls).Serves config source s fs := by
  induction calls generalizing t with
  | nil => exact h
  | cons call rest ih => exact ih (Program.run_of_serves hquiet _ h (.inr hunseen)).2

/-- A session without a catalog serves the lists of the machine after any calls. -/
theorem serves_offline (hquiet : s.interruption = .none) (config : Configuration) (fs : FileSystem)
    (calls : List Call) :
    ((start false fs).afterCalls (.onMachine config none s) calls).Serves config none s fs :=
  serves_start.afterCalls hquiet (.refl config s.environment fs) calls

/-- What a session without a catalog answers depends on the files only as far as they show JDKs. -/
theorem answer_offline (hquiet : s.interruption = .none) (config : Configuration)
    (fs : FileSystem) (calls : List Call) (call : Call) :
    (((start false fs).afterCalls (.onMachine config none s) calls).answer
        (.onMachine config none s) call).1 =
      (call.programBy UnknownSdk.requirement?).answerFor
        (Registry.candidates config.registrations fs s.environment)
        ((Scanner.ofConfiguration config s.environment).results fs s.environment) [] :=
  (Program.run_of_serves hquiet _ (serves_offline hquiet config fs calls)
    (.inr (.refl config s.environment fs))).1

/-- A session without a catalog changes no files. -/
theorem world_offline (config : Configuration) (t : Session FileSystem) (call : Call) :
    (t.answer (.onMachine config none s) call).2.world = t.world :=
  or_self_iff.mp
    (Program.world_of_run config none s (call.programBy UnknownSdk.requirement?) t)

theorem world_afterCalls_offline (config : Configuration) (t : Session FileSystem)
    (calls : List Call) : (t.afterCalls (.onMachine config none s) calls).world = t.world := by
  induction calls generalizing t with
  | nil => rfl
  | cons call rest ih => exact (ih _).trans (world_offline config t call)

/-- Neither session is cancelled, and both may have been used before in any way.  The one without a
catalog resolves an SDK to the same JDK if the other one resolves it to a JDK on the machine, and to
nothing if the other one resolves it to a download or to nothing; and it lists the same candidates
but those that would have to be downloaded.  It changes no files, and no file makes a difference to
it that is no part of a JDK, such as the one in which the catalog is kept.

A fetch may change the files, by keeping the catalog.  If the other session has been used before,
the JDKs must look the same after that. -/
theorem offline_is_online_without_downloads (config : Configuration)
    (hquiet : s.interruption = .none) (fs : FileSystem) (source : CatalogSource)
    (before before' : List Call)
    (hunseen : before = [] ∨
      config.ShowsAlike s.environment fs (s.filesFetched (some source) fs)) (sdk : UnknownSdk) :
    let online := Collaborators.onMachine config (some source) s
    let offline := Collaborators.onMachine config none s
    let t := (start false fs).afterCalls online before
    let u := (start false fs).afterCalls offline before'
    (∃ outcome, (t.answer online (.resolve sdk)).1 = .ok (.outcome outcome) ∧
      (u.answer offline (.resolve sdk)).1 = .ok (.outcome (outcome.filter Outcome.isLocal))) ∧
    (∃ list, (t.answer online (.candidates sdk)).1 = .ok (.candidates list) ∧
      (u.answer offline (.candidates sdk)).1 =
        .ok (.candidates (list.filter Candidate.isLocal))) ∧
    ∀ call, (u.answer offline call).2.world = fs ∧
      ∀ place file, JdkHome.Outside fs place →
        (((start false (fs.place place (.file file))).afterCalls offline before').answer
          offline call).1 = (u.answer offline call).1 := by
  intro online offline t u
  have hserves : t.Serves config (some source) s fs := by
    rcases hunseen with rfl | hunseen
    · exact serves_start
    · exact serves_start.afterCalls hquiet hunseen before
  -- Both kinds of call ask for the catalog last, so a session without earlier calls never looks
  -- at the files that its own fetch leaves.
  have honline (call : Call) (hlast : (call.programBy UnknownSdk.requirement?).FetchesLast) :
      (t.answer online call).1 = (call.programBy UnknownSdk.requirement?).answerFor
        (Registry.candidates config.registrations fs s.environment)
        ((Scanner.ofConfiguration config s.environment).results fs s.environment)
        (s.catalog (some source) fs) := by
    refine (Program.run_of_serves hquiet _ hserves (hunseen.imp_left ?_)).1
    rintro rfl
    exact ⟨rfl, hlast⟩
  refine ⟨?_, ?_, fun call => ⟨?_, fun place file houtside => ?_⟩⟩
  · -- The outcome: offline it is chosen from the same lists with the third one empty.
    have hresolved := honline (.resolve sdk)
      ((Program.resolve_fetchesLast UnknownSdk.requirement? sdk).map Reply.outcome)
    have hresolved' := answer_offline hquiet config fs before' (.resolve sdk)
    rw [Call.programBy, Program.answerFor_map, Program.answerFor_resolve] at hresolved hresolved'
    refine ⟨_, hresolved, hresolved'.trans ?_⟩
    cases sdk.resolvableBy? UnknownSdk.requirement? with
    | none => rfl
    | some r =>
      simp only [Option.bind_some]
      rw [r.resolve_nil _ _ (s.catalog (some source) fs)]
      rfl
  · -- The listing, in the same way.
    have hlisted := honline (.candidates sdk)
      ((Program.candidates_fetchesLast UnknownSdk.requirement? sdk).map Reply.candidates)
    have hlisted' := answer_offline hquiet config fs before' (.candidates sdk)
    rw [Call.programBy, Program.answerFor_map, Program.answerFor_candidates] at hlisted hlisted'
    refine ⟨_, hlisted, hlisted'.trans ?_⟩
    cases sdk.resolvableBy? UnknownSdk.requirement? with
    | none => rfl
    | some r =>
      simp only [Option.elim_some]
      rw [r.listing_nil _ _ (s.catalog (some source) fs)]
      rfl
  · -- A session offline reads the world and never writes to it.
    exact (world_offline config u call).trans
      (world_afterCalls_offline config (start false fs) before')
  · -- A file outside every home changes neither the table nor the scan, and they decide the answer.
    have hsame : config.ShowsAlike s.environment fs (fs.place place (.file file)) :=
      .of_outside houtside file
    rw [answer_offline hquiet, answer_offline hquiet, hsame.registered, hsame.detected]

end Session

/-! ### Two sessions on one machine -/

namespace ConfiguredMachine

/-- The source of the catalog, of which the web knows nothing. -/
def source : CatalogSource :=
  ⟨Configuration.standard.catalogUrl, .current, some cache⟩

theorem sourceOf_eq :
    Command.sourceOf .standard SmallMachine.surroundings false = .ok (some source) := by
  rw [Command.sourceOf, if_neg Bool.false_ne_true, Configuration.catalogSource, catalogCache?_eq]
  rfl

/-- The JDK is found with the catalog and without it, also after other calls. -/
theorem resolves_alike_offline :
    Command.sourceOf .standard SmallMachine.surroundings false = .ok (some source) ∧
      ((Session.start false files).answer
        (.onMachine .standard (some source) SmallMachine.surroundings)
        (.resolve SmallMachine.sdk)).1 = .ok (.outcome (some (.localFix SmallMachine.fix))) ∧
      (((Session.start false files).afterCalls
        (.onMachine .standard none SmallMachine.surroundings)
        [.catalog, .candidates SmallMachine.sdk]).answer
        (.onMachine .standard none SmallMachine.surroundings) (.resolve SmallMachine.sdk)).1 =
          .ok (.outcome (some (.localFix SmallMachine.fix))) := by
  have hquiet : SmallMachine.surroundings.interruption = .none := rfl
  obtain ⟨⟨outcome, honline, hoffline⟩, -⟩ :=
    Session.offline_is_online_without_downloads .standard hquiet files source []
      [.catalog, .candidates SmallMachine.sdk] (.inl rfl) SmallMachine.sdk
  -- The outcome of this machine is computed for the online session; the offline one follows.
  have hfix : ((Session.start false files).answer
      (.onMachine .standard (some source) SmallMachine.surroundings)
      (.resolve SmallMachine.sdk)).1 = .ok (.outcome (some (.localFix SmallMachine.fix))) := by
    have hresolved : ((Program.resolve UnknownSdk.requirement? SmallMachine.sdk).run
        (.onMachine .standard (some source) SmallMachine.surroundings)
        (.start false files)).1 = .ok (some (.localFix SmallMachine.fix)) :=
      Program.run_resolve_detected resolvable?_eq (fun _ => rfl) (fun _ => rfl) rfl bestMatch?_eq
    change (((Program.resolve UnknownSdk.requirement? SmallMachine.sdk).map Reply.outcome).run
      _ _).1 = _
    rw [Program.map, Program.run_bind]
    split
    · rename_i found u hrun
      rw [hrun] at hresolved
      cases hresolved
      rfl
    · rename_i e u hrun
      rw [hrun] at hresolved
      cases hresolved
  refine ⟨sourceOf_eq, hfix, ?_⟩
  cases honline.symm.trans hfix
  exact hoffline

end ConfiguredMachine

end JdkFinder
