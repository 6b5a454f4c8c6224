import JdkFinder.Proofs.Catalog.History

/-!
# Trouble with the cache

A fetch that succeeds without a cache may fail with one.  It does so in two cases only: the cache
holds a text for the URL that is no feed, or it holds an entry that is too old and whose removal
takes away what would have been downloaded (`CatalogSource.Spoilt`).  In all other cases trouble
with the cache is at most a miss (`CatalogSource.fetch_fails_iff_spoilt`).
-/

namespace JdkFinder

/-! ## §1 Downloads from fewer files -/

section Downloads

variable {fs fs' : FileSystem} {text : String}

/-- Only paths that are text lead to files. -/
theorem FileSystem.readTextAt_of_readText {path : List UInt8}
    (hkept : ∀ path text, fs'.readText path = .ok text → fs.readText path = .ok text)
    (h : fs'.readTextAt path = .ok text) : fs.readTextAt path = .ok text := by
  unfold FileSystem.readTextAt at h ⊢
  cases hpath : FileSystem.textOf? path with
  | some path =>
    rw [hpath] at h
    exact hkept path text h
  | none =>
    rw [hpath] at h
    dsimp only at h
    split at h
    · cases h
    split at h
    · cases h
    -- Whatever the names before the one that is no text lead to, there is no such file.
    · simp only [bind, Except.bind] at h
      split at h
      · cases h
      · split at h <;> cases h

/-- What can be downloaded where fewer files can be read can be downloaded here. -/
theorem downloadText_of_readText {url : String} {web : Web}
    (hkept : ∀ path text, fs'.readText path = .ok text → fs.readText path = .ok text)
    (h : downloadText url web fs' = .ok text) : downloadText url web fs = .ok text := by
  unfold downloadText at h ⊢
  cases hparse : Url.parse url with
  | error e =>
    rw [hparse] at h
    cases h
  | ok parsed =>
    rw [hparse] at h
    dsimp only at h ⊢
    -- Only a file is read from the machine.
    by_cases hfile : String.ofList parsed.scheme = "file"
    · rw [if_pos hfile] at h ⊢
      cases hpath : parsed.filePath? with
      | none =>
        rw [hpath] at h
        cases h
      | some path =>
        rw [hpath] at h
        dsimp only at h ⊢
        cases hread : fs'.readTextAt path with
        | error e =>
          rw [hread] at h
          cases h
        | ok other =>
          rw [hread] at h
          rw [FileSystem.readTextAt_of_readText hkept hread]
          exact h
    · rw [if_neg hfile] at h ⊢
      exact h

end Downloads

namespace CatalogSource

/-! ## §2 With and without a cache -/

/-- The same source without its cache. -/
def uncached (source : CatalogSource) : CatalogSource :=
  { source with cache := none }

/-- What the cache holds makes a fetch fail. -/
inductive Spoilt (source : CatalogSource) (c : FetchCircumstances) (fs : FileSystem) : Prop where
  /-- There is an entry for the URL of the source, but its text is no feed. -/
  | rejected {cache : Cache} {entry : CacheEntry CachedFeed} {e : Error}
      (hcache : source.cache = some cache)
      (hentry : cache.entry? CachedFeed.decode? catalogKey fs = some entry)
      (hexpired : entry.isExpired c.startTime = false) (hurl : entry.data.url = source.url)
      (hparse : Feed.parse entry.data.text source.platform = .error e)
  /-- An entry is too old, and without its file there is nothing to download. -/
  | removed {cache : Cache} {entry : CacheEntry CachedFeed} {e : Error}
      (hcache : source.cache = some cache)
      (hentry : cache.entry? CachedFeed.decode? catalogKey fs = some entry)
      (hexpired : entry.isExpired c.startTime = true)
      (hdownload : source.download c (cache.discard catalogKey fs) = .error e)

variable {source : CatalogSource} {c : FetchCircumstances} {fs : FileSystem} {cache : Cache}
  {jdks : List DownloadableJdk}

/-- Without a cache a list is that of a downloaded text. -/
theorem exists_download_of_uncached (h : ((source.uncached.fetch c).run fs).1 = .ok jdks) :
    c.interruption ≠ .beforeStart ∧ ∃ text, source.download c fs = .ok text ∧
      Feed.parse text source.platform = .ok jdks := by
  have hmiss : (source.uncached.cachedText? c.startTime).run fs = (none, fs) := rfl
  have hrun : (source.uncached.fetch c).run fs = (.ok jdks, _) := Prod.ext h rfl
  have hdownloaded := exists_download_of_miss hmiss hrun
  -- Downloading and reading do not depend on the cache.
  exact hdownloaded

/-- What is downloaded after the cache has been asked could have been downloaded before. -/
theorem download_of_consults {found : Option String} {between : FileSystem} {text : String}
    (h : Consults source c.startTime fs found between)
    (hdownload : source.download c between = .ok text) : source.download c fs = .ok text := by
  by_cases hinterrupted : c.interruption = .whileDownloading
  · rw [download, if_pos hinterrupted] at hdownload
    cases hdownload
  · rw [download, if_neg hinterrupted] at hdownload ⊢
    exact downloadText_of_readText (fun _ _ => h.readText) hdownload

/-- After a miss a fetch comes to what it comes to without a cache, as far as there still is
something to download. -/
theorem fetch_of_miss {between : FileSystem} (h : ((source.uncached.fetch c).run fs).1 = .ok jdks)
    (hmiss : (source.cachedText? c.startTime).run fs = (none, between)) :
    ((source.fetch c).run fs).1 = (source.download c between).map fun _ => jdks := by
  obtain ⟨hstart, text, hdownload, hparse⟩ := exists_download_of_uncached h
  have hconsults := source.consults c.startTime fs
  rw [hmiss] at hconsults
  rw [run_fetch hstart, hmiss]
  dsimp only
  cases hbetween : source.download c between with
  | error e => rfl
  | ok other =>
    -- The same text would have been downloaded without the cache.
    have hsame := (download_of_consults hconsults hbetween).symm.trans hdownload
    obtain rfl : other = text := Except.ok.inj hsame
    dsimp only
    rw [hparse]
    rfl

/-- Nothing is spoilt where the cache leaves the files as they are and has no text. -/
theorem fetch_of_silent_miss (h : ((source.uncached.fetch c).run fs).1 = .ok jdks)
    (hmiss : (source.cachedText? c.startTime).run fs = (none, fs)) :
    ((source.fetch c).run fs).1 = .ok jdks := by
  obtain ⟨-, text, hdownload, -⟩ := exists_download_of_uncached h
  rw [fetch_of_miss h hmiss, hdownload]
  rfl

theorem not_spoilt_of_entry_eq_none (hcache : source.cache = some cache)
    (hnone : cache.entry? CachedFeed.decode? catalogKey fs = none) : ¬ source.Spoilt c fs := by
  intro hspoilt
  cases hspoilt with
  | rejected hother hentry =>
    obtain rfl := Option.some.inj (hcache.symm.trans hother)
    rw [hnone] at hentry
    cases hentry
  | removed hother hentry =>
    obtain rfl := Option.some.inj (hcache.symm.trans hother)
    rw [hnone] at hentry
    cases hentry

/-- What makes a fetch fail where the cache has an entry. -/
theorem spoilt_iff_of_entry {entry : CacheEntry CachedFeed} (hcache : source.cache = some cache)
    (hentry : cache.entry? CachedFeed.decode? catalogKey fs = some entry) :
    source.Spoilt c fs ↔
      (entry.isExpired c.startTime = false ∧ entry.data.url = source.url ∧
        ∃ e, Feed.parse entry.data.text source.platform = .error e) ∨
      entry.isExpired c.startTime = true ∧
        ∃ e, source.download c (cache.discard catalogKey fs) = .error e := by
  constructor
  · intro hspoilt
    -- The cache and its entry are those of the hypotheses.
    cases hspoilt with
    | rejected hcache' hentry' hexpired hurl hparse =>
      obtain rfl := Option.some.inj (hcache.symm.trans hcache')
      obtain rfl := Option.some.inj (hentry.symm.trans hentry')
      exact .inl ⟨hexpired, hurl, _, hparse⟩
    | removed hcache' hentry' hexpired hdownload =>
      obtain rfl := Option.some.inj (hcache.symm.trans hcache')
      obtain rfl := Option.some.inj (hentry.symm.trans hentry')
      exact .inr ⟨hexpired, _, hdownload⟩
  · rintro (⟨hexpired, hurl, e, hparse⟩ | ⟨hexpired, e, hdownload⟩)
    · exact .rejected hcache hentry hexpired hurl hparse
    · exact .removed hcache hentry hexpired hdownload

/-- After a miss a list is that of the text which is downloaded without a cache. -/
theorem eq_of_fetch_of_miss {between : FileSystem} {list : List DownloadableJdk}
    (h : ((source.uncached.fetch c).run fs).1 = .ok jdks)
    (hmiss : (source.cachedText? c.startTime).run fs = (none, between))
    (hlist : ((source.fetch c).run fs).1 = .ok list) : list = jdks := by
  rw [fetch_of_miss h hmiss] at hlist
  cases hdownload : source.download c between with
  | error e =>
    rw [hdownload] at hlist
    cases hlist
  | ok text =>
    rw [hdownload] at hlist
    exact (Except.ok.inj hlist).symm

theorem not_spoilt_of_cache_eq_none (hcache : source.cache = none) : ¬ source.Spoilt c fs := by
  intro hspoilt
  cases hspoilt with
  | rejected hother =>
    rw [hcache] at hother
    cases hother
  | removed hother =>
    rw [hcache] at hother
    cases hother

/-- A fetch that succeeds where nothing is spoilt. -/
theorem fails_iff_spoilt_of_fine (hok : ((source.fetch c).run fs).1 = .ok jdks)
    (hnot : ¬ source.Spoilt c fs) :
    (∃ e, ((source.fetch c).run fs).1 = .error e) ↔ source.Spoilt c fs := by
  rw [hok]
  refine ⟨?_, fun hspoilt => absurd hspoilt hnot⟩
  rintro ⟨e, he⟩
  cases he

theorem fails_iff_spoilt_of_entry {entry : CacheEntry CachedFeed}
    (h : ((source.uncached.fetch c).run fs).1 = .ok jdks) (hcache : source.cache = some cache)
    (hentry : cache.entry? CachedFeed.decode? catalogKey fs = some entry) :
    (∃ e, ((source.fetch c).run fs).1 = .error e) ↔ source.Spoilt c fs := by
  have hspoilt := @spoilt_iff_of_entry source c fs cache entry hcache hentry
  have hrun := run_cachedText? hcache c.startTime fs
  rw [Cache.run_load?, hentry] at hrun
  cases hexpired : entry.isExpired c.startTime with
  | true =>
    -- An expired entry is removed first, and the download may have needed its file.
    simp only [hexpired, if_true] at hrun
    rw [fetch_of_miss h hrun, hspoilt, hexpired]
    cases source.download c (cache.discard catalogKey fs) with
    | error e => simp [Except.map]
    | ok text => simp [Except.map]
  | false =>
    simp only [hexpired, Bool.false_eq_true, if_false] at hrun
    by_cases hurl : entry.data.url = source.url
    · -- An entry of this URL is the answer, so the fetch fails with its parse.
      rw [Option.bind_some, if_pos hurl] at hrun
      rw [run_fetch (exists_download_of_uncached h).1, hrun, hspoilt, hexpired]
      simp [hurl]
    · -- An entry of another URL is passed over and left where it is.
      rw [Option.bind_some, if_neg hurl] at hrun
      refine fails_iff_spoilt_of_fine (fetch_of_silent_miss h hrun) ?_
      rw [hspoilt, hexpired]
      simp [hurl]

/-- A fetch that gives a list without a cache fails with one exactly if the cache is spoilt for it.
Otherwise it gives a list too, and the same one unless it is answered from the cache. -/
theorem fetch_fails_iff_spoilt (h : ((source.uncached.fetch c).run fs).1 = .ok jdks) :
    ((∃ e, ((source.fetch c).run fs).1 = .error e) ↔ source.Spoilt c fs) ∧
      (((source.cachedText? c.startTime).run fs).1 = none →
        ∀ list, ((source.fetch c).run fs).1 = .ok list → list = jdks) := by
  refine ⟨?_, fun hnone _ hlist => eq_of_fetch_of_miss h (Prod.ext hnone rfl) hlist⟩
  cases hcache : source.cache with
  | none =>
    -- No cache: the fetch is the one without it.
    have hmiss := run_cachedText?_uncached hcache c.startTime fs
    exact fails_iff_spoilt_of_fine (fetch_of_silent_miss h hmiss)
      (not_spoilt_of_cache_eq_none hcache)
  | some cache =>
    cases hentry : cache.entry? CachedFeed.decode? catalogKey fs with
    | none =>
      -- No entry, or a damaged one: a miss that changes nothing.
      have hmiss := run_cachedText? hcache c.startTime fs
      rw [Cache.run_load?, hentry] at hmiss
      exact fails_iff_spoilt_of_fine (fetch_of_silent_miss h hmiss)
        (not_spoilt_of_entry_eq_none hcache hentry)
    | some entry => exact fails_iff_spoilt_of_entry h hcache hentry

/-! ### An entry whose text is no feed -/

namespace StrayEntry

open TwoFetches

/-- A machine with an entry for the URL that has been saved at the time 5. -/
def files : FileSystem :=
  ((TwoFetches.cache.save catalogKey (CachedFeed.encode ⟨"http://a/", "oops"⟩) 5).run ⟨[], []⟩).2

/-- The web answers, at some time. -/
def circumstances (time : UInt64) : FetchCircumstances :=
  ⟨first.circumstances.web, time, time, .never⟩

theorem downloads (time : UInt64) (fs : FileSystem) :
    TwoFetches.source.download (circumstances time) fs = .ok feed :=
  first_downloads fs

theorem entry_files : TwoFetches.cache.entry? CachedFeed.decode? catalogKey files =
    some ⟨⟨"http://a/", "oops"⟩, 5, 60⟩ := by
  have hsave : (TwoFetches.cache.save catalogKey (CachedFeed.encode ⟨"http://a/", "oops"⟩) 5).run
      ⟨[], []⟩ = (.ok (), files) := Cache.run_save_on_root isName_file walkable_file
  exact Cache.entry?_of_save FileSystem.isTree_root (CachedFeed.plain_encode _) hsave

theorem fetch_uncached (time : UInt64) :
    ((TwoFetches.source.uncached.fetch (circumstances time)).run files).1 = .ok [] := by
  have hmiss : (TwoFetches.source.uncached.cachedText? (circumstances time).startTime).run files =
      (none, files) := rfl
  have hdownload : TwoFetches.source.uncached.download (circumstances time) files = .ok feed :=
    downloads time files
  have hstart : (circumstances time).interruption ≠ .beforeStart := by
    show FetchInterruption.never ≠ .beforeStart
    decide
  rw [run_fetch hstart, hmiss]
  dsimp only
  rw [hdownload]
  dsimp only
  rw [parse_feed]

theorem parse_text (platform : Platform) :
    Feed.parse "oops" platform = .error (.serialization "invalid feed") := by
  have hread : (Json.read? "oops".toList).bind Feed.elements? = none := rfl
  rw [Feed.parse, hread]

end StrayEntry

/-- A minute later the entry is too old, and the fetch succeeds. -/
theorem old_entry_is_a_miss :
    ¬ ∃ e, ((TwoFetches.source.fetch (StrayEntry.circumstances 66)).run StrayEntry.files).1 =
      .error e := by
  have hfails := fetch_fails_iff_spoilt (StrayEntry.fetch_uncached 66)
  rw [hfails.1, spoilt_iff_of_entry rfl StrayEntry.entry_files]
  rintro (⟨hexpired, -⟩ | ⟨-, e, hdownload⟩)
  · exact absurd hexpired (by decide)
  · rw [StrayEntry.downloads] at hdownload
    cases hdownload

/-- The web has a feed, but the fetch fails with what the cache holds. -/
theorem stray_entry_fails_fetch :
    ((TwoFetches.source.uncached.fetch (StrayEntry.circumstances 30)).run StrayEntry.files).1 =
        .ok [] ∧
      ((TwoFetches.source.fetch (StrayEntry.circumstances 30)).run StrayEntry.files).1 =
        .error (.serialization "invalid feed") := by
  refine ⟨StrayEntry.fetch_uncached 30, ?_⟩
  have hcache : TwoFetches.source.cache = some TwoFetches.cache := rfl
  have hhit : (TwoFetches.source.cachedText? (StrayEntry.circumstances 30).startTime).run
      StrayEntry.files = (some "oops", StrayEntry.files) := by
    rw [run_cachedText? hcache, Cache.run_load?, StrayEntry.entry_files]
    rfl
  rw [run_fetch (by decide), hhit]
  exact StrayEntry.parse_text TwoFetches.source.platform

end CatalogSource

end JdkFinder
