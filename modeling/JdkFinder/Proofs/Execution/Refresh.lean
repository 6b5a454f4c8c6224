import JdkFinder.Proofs.Catalog.History
import JdkFinder.Proofs.Execution.Resolution

/-!
# Refreshing the catalog

A refresh takes the entry out of the cache before it downloads anything.  If it succeeds, its list
is that of a new download; if it fails, whatever the reason, the entry is lost, and nothing else
stands in its place (`Command.refresh_removes_entry_first`).
-/

namespace JdkFinder

/-! ## §1 Fetching past an empty cache -/

namespace CatalogSource

variable {source : CatalogSource} {fs : FileSystem} {cache : Cache}

/-- Where no entry is, the cache has no text and leaves the files as they are. -/
theorem run_cachedText?_of_none (hcache : source.cache = some cache)
    (hnone : cache.entry? CachedFeed.decode? catalogKey fs = none) (now : UInt64) :
    (source.cachedText? now).run fs = (none, fs) := by
  rw [run_cachedText? hcache, Cache.run_load?, hnone]
  rfl

end CatalogSource

/-! ## §2 The command -/

namespace Command

variable {config : Configuration} {s : Surroundings} {cache : Cache} {w w' : Workspace}
  {json : Bool}

/-- The source of the catalog, with its cache. -/
def refreshedSource (config : Configuration) (cache : Cache) : CatalogSource :=
  ⟨config.catalogUrl, .current, some cache⟩

/-- A refresh removes the entry, fetches, and prints the list if there is one. -/
theorem run_refresh {cleared : FileSystem}
    (hcache : config.catalogCache? s.environment = .ok (some cache))
    (hclear : (cache.clear catalogKey).run w.files = (.ok (), cleared)) :
    ((listRemote true json).perform config s).run w =
      match ((refreshedSource config cache).fetch s.fetchCircumstances).run cleared with
      | (.error e, files) => (.error e, ⟨files, w.printed⟩)
      | (.ok jdks, files) =>
        (.ok (), ⟨files, w.printed ++ Report.catalog jdks (styleOf json)⟩) := by
  have hsource : config.catalogSource s.environment = .ok (refreshedSource config cache) := by
    rw [Configuration.catalogSource, hcache]
    rfl
  -- The entry is cleared before the catalog is fetched, in the files that the fetch then starts
  -- from.
  have hfirst : (Job.onFiles (cache.clear catalogKey)).run w = (.ok (), ⟨cleared, w.printed⟩) := by
    rw [run_onFiles, hclear]
  show (listCatalog config s true (styleOf json)).run w = _
  unfold listCatalog
  rw [hsource, run_ofExcept_bind]
  show (Job.onFiles (cache.clear catalogKey) >>= fun _ => _).run w = _
  rw [run_bind, hfirst]
  dsimp only
  rw [run_bind, run_onFiles]
  dsimp only
  rcases ((refreshedSource config cache).fetch s.fetchCircumstances).run cleared with
    ⟨e | jdks, files⟩ <;> rfl

/-- A refresh where the cache has an entry first of all removes it.  If the refresh fails, for
whatever reason, nothing is left of the entry, so that the next fetch misses it, and nothing has
been printed.  If it succeeds, it prints the list of a text that has been downloaded. -/
theorem refresh_removes_entry_first {entry : CacheEntry CachedFeed} {result : Except Error Unit}
    (hcache : config.catalogCache? s.environment = .ok (some cache)) (hs : w.files.IsTree)
    (hentry : cache.entry? CachedFeed.decode? catalogKey w.files = some entry)
    (hrun : ((listRemote true json).perform config s).run w = (result, w')) :
    ∃ cleared, (cache.clear catalogKey).run w.files = (.ok (), cleared) ∧
      cleared.hasPath (cache.path catalogKey) = false ∧
      (∀ e, result = .error e → w' = ⟨cleared, w.printed⟩ ∧
        ∀ now, ((refreshedSource config cache).cachedText? now).run cleared = (none, cleared)) ∧
      (result = .ok () → ∃ text jdks,
        (refreshedSource config cache).download s.fetchCircumstances cleared = .ok text ∧
          Feed.parse text .current = .ok jdks ∧
            w'.printed = w.printed ++ Report.catalog jdks (styleOf json)) := by
  have hkey : '/' ∉ catalogKey.toList := by decide
  obtain ⟨cleared, hclear, hgone⟩ := Cache.exists_clear_of_entry hs hkey hentry
  have hmiss (now : UInt64) :
      ((refreshedSource config cache).cachedText? now).run cleared = (none, cleared) :=
    CatalogSource.run_cachedText?_of_none rfl (Cache.entry?_eq_none_of_canonicalize? hgone) now
  have hmissing : cleared.hasPath (cache.path catalogKey) = false := by
    rw [FileSystem.hasPath, hgone]
    rfl
  refine ⟨cleared, hclear, hmissing, ?_⟩
  rw [run_refresh hcache hclear] at hrun
  rcases hfetch : ((refreshedSource config cache).fetch s.fetchCircumstances).run cleared with
    ⟨e | jdks, files⟩
  · rw [hfetch] at hrun
    obtain ⟨rfl, rfl⟩ := Prod.mk.inj hrun
    -- Only the removal has happened.
    obtain rfl := or_self_iff.mp (CatalogSource.files_of_fetch_error (hmiss _) hfetch)
    refine ⟨fun _ _ => ⟨rfl, hmiss⟩, fun hok => ?_⟩
    cases hok
  · rw [hfetch] at hrun
    obtain ⟨rfl, rfl⟩ := Prod.mk.inj hrun
    obtain ⟨-, text, hdownload, hparse⟩ := CatalogSource.exists_download_of_miss (hmiss _) hfetch
    refine ⟨fun e he => ?_, fun _ => ⟨text, jdks, hdownload, hparse, rfl⟩⟩
    cases he

end Command

/-! ### A machine with an entry in the cache -/

namespace CachedMachine

open FileSystem

def environment : Environment := ⟨[], some "/"⟩

def config : Configuration := { Configuration.standard with catalogUrl := "http://a/" }

def cache : Cache := ⟨"/.jdkauto/cache", config.catalogTtl⟩

/-- A feed without JDKs. -/
def feed : CachedFeed := ⟨"http://a/", "\x7b\x7d"⟩

/-- The text of an entry from the time 5. -/
def entryText : String := CacheEntry.render ⟨feed.encode, 5, config.catalogTtl⟩

/-- The directories above the entry. -/
def folders : FileSystem :=
  (FileSystem.place ⟨[], []⟩ [".jdkauto"] .directory).place [".jdkauto", "cache"] .directory

/-- The machine with a text in the file of the catalog. -/
def holding (text : String) : FileSystem :=
  folders.place [".jdkauto", "cache", "jdk_catalog.json"] (.file ⟨text.toUTF8, false, none⟩)

/-- The machine with the entry. -/
def files : FileSystem :=
  holding entryText

/-- The web is silent. -/
def surroundings (interruption : Interruption) : Surroundings :=
  ⟨environment, fun _ => .silent "", 10, 10, interruption, "task"⟩

theorem catalogCache?_eq (interruption : Interruption) :
    config.catalogCache? (surroundings interruption).environment = .ok (some cache) := by
  show config.catalogCache? environment = .ok (some cache)
  decide

theorem isTree_folders : folders.IsTree :=
  (isTree_root.place (by decide) rfl (by decide) .directory).place (by decide) rfl (by decide)
    .directory

theorem isTree_holding (text : String) : (holding text).IsTree :=
  isTree_folders.place (by decide) rfl (by decide) _

theorem readText_holding (text : String) :
    (holding text).readText (cache.path catalogKey) = .ok text := by
  have hpath : cache.path catalogKey = "/.jdkauto/cache/jdk_catalog.json" := by decide
  have hfolder : IsName ".jdkauto" := by decide
  have hcache : IsName "cache" := by decide
  have hname : IsName "jdk_catalog.json" := by decide
  have hplace : folders.locateNew (cache.path catalogKey) =
      .ok [".jdkauto", "cache", "jdk_catalog.json"] := by
    rw [hpath]
    exact walk_of_leads (.idle isIdle_empty
      (.directory hfolder rfl (.directory hcache rfl (.new hname rfl rfl))))
  exact readText_place (by decide) (fun _ hnode => by cases hnode) hplace

theorem entry_files :
    cache.entry? CachedFeed.decode? catalogKey files = some ⟨feed, 5, config.catalogTtl⟩ := by
  have hparse : CacheEntry.parse? CachedFeed.decode? entryText =
      (CachedFeed.decode? feed.encode).map fun feed => ⟨feed, 5, config.catalogTtl⟩ :=
    CacheEntry.parse?_render 5 config.catalogTtl feed.plain_encode
  have htext : (Except.ok entryText : Except IoError String).toOption = some entryText := rfl
  rw [Cache.entry?, files, readText_holding, htext, Option.bind_some, hparse,
    CachedFeed.decode?_encode]
  rfl

theorem downloads_nothing (fs : FileSystem) :
    (Command.refreshedSource config cache).download (surroundings .none).fetchCircumstances fs =
      .error (.network (.requestFailed "http://a/" "")) := by
  rw [CatalogSource.download, if_neg (by decide)]
  exact CatalogSource.downloadText_of_http TwoFetches.scheme_url fun _ => rfl

end CachedMachine

namespace Command

/-- A refresh that is interrupted at its start has removed the entry all the same. -/
theorem interrupted_refresh_loses_entry :
    ∃ cleared, ((listRemote true false).perform CachedMachine.config
        (CachedMachine.surroundings .fromStart)).run ⟨CachedMachine.files, ""⟩ =
          (.error .cancelled, ⟨cleared, ""⟩) ∧
      cleared.hasPath (CachedMachine.cache.path catalogKey) = false := by
  obtain ⟨cleared, hclear, hgone, -⟩ := refresh_removes_entry_first
    (CachedMachine.catalogCache?_eq .fromStart)
    (CachedMachine.isTree_holding CachedMachine.entryText) CachedMachine.entry_files
    (Prod.mk.eta.symm : ((listRemote true false).perform CachedMachine.config
      (CachedMachine.surroundings .fromStart)).run ⟨CachedMachine.files, ""⟩ = _)
  -- An interruption from the start is met before the download, and after the clearing.
  have hcancelled : ((refreshedSource CachedMachine.config CachedMachine.cache).fetch
      (CachedMachine.surroundings .fromStart).fetchCircumstances).run cleared =
        (.error .cancelled, cleared) := by
    unfold CatalogSource.fetch
    rw [if_pos (by decide)]
    rfl
  refine ⟨cleared, ?_, hgone⟩
  rw [run_refresh (CachedMachine.catalogCache?_eq .fromStart) hclear, hcancelled]

/-- The entry may still be used, but after the web has not answered it is lost. -/
theorem failed_refresh_loses_entry :
    CachedMachine.cache.entry? CachedFeed.decode? catalogKey CachedMachine.files =
        some ⟨CachedMachine.feed, 5, CachedMachine.config.catalogTtl⟩ ∧
      ∃ files, ((listRemote true false).perform CachedMachine.config
          (CachedMachine.surroundings .none)).run ⟨CachedMachine.files, ""⟩ =
        (.error (.network (.requestFailed "http://a/" "")), ⟨files, ""⟩) ∧
      CachedMachine.cache.entry? CachedFeed.decode? catalogKey files = none := by
  refine ⟨CachedMachine.entry_files, ?_⟩
  have hkey : '/' ∉ catalogKey.toList := by decide
  have htree := CachedMachine.isTree_holding CachedMachine.entryText
  obtain ⟨cleared, hclear, hgone⟩ :=
    Cache.exists_clear_of_entry htree hkey CachedMachine.entry_files
  have hnone := @Cache.entry?_eq_none_of_canonicalize? _ _ _ _ CachedFeed.decode? hgone
  -- With the entry gone nothing answers but the web.
  have hmiss : ((refreshedSource CachedMachine.config CachedMachine.cache).cachedText?
      (CachedMachine.surroundings .none).fetchCircumstances.startTime).run cleared =
        (none, cleared) :=
    CatalogSource.run_cachedText?_of_none rfl hnone _
  refine ⟨cleared, ?_, hnone⟩
  rw [run_refresh (CachedMachine.catalogCache?_eq _) hclear, CatalogSource.run_fetch (by decide),
    hmiss]
  dsimp only
  rw [CachedMachine.downloads_nothing]

end Command

end JdkFinder
