import JdkFinder.Proofs.Cancellation.Races
import JdkFinder.Proofs.Catalog.Trouble

/-!
# What a failed fetch leaves behind

A fetch of the catalog writes at its very end, so one that fails has written nothing.  All that it
may have done is to remove an entry that was too old (`CatalogSource.failed_fetch_keeps_cache`).  A
cancellation that races with the download is no exception: however the race goes, it comes to a
download that is interrupted or to one that is not, and so a fetch that fails in the race fails like
the others (`CatalogSource.fetch_of_failed_race`).
-/

namespace JdkFinder

namespace CatalogSource

variable {source : CatalogSource} {c : FetchCircumstances} {fs fs' between : FileSystem}

/-! ## §1 Races with the download -/

/-- However a download races with cancellations, the result is that of a download in circumstances
that differ in the interruption only. -/
theorem download_of_race {future : FuturePolls String} {others : Nat → Nat} {flag : Bool} {n : Nat}
    {result : Except Error String}
    (hfuture : ∀ k result, future.EndsAt k result → result = downloadText source.url c.web fs)
    (h : (RaceState.after others flag future n).result? = some result) :
    ∃ interruption, interruption ≠ .beforeStart ∧
      source.download { c with interruption } fs = result := by
  have hstands := RaceState.stands_after others flag future n
  rcases (hstands.result?_eq_some_iff result).mp h with ⟨k, -, hends, -⟩ | ⟨rfl, -⟩
  · -- The download has won, as if nobody had interrupted it.
    refine ⟨.never, by decide, ?_⟩
    rw [download, if_neg (by simp)]
    exact (hfuture k result hends).symm
  · refine ⟨.whileDownloading, by decide, ?_⟩
    rw [download, if_pos rfl]

/-! ## §2 Files after a failure -/

/-- Asking the cache leaves the files alone, but for an entry that is too old. -/
theorem files_of_consulting {found : Option String} {now : UInt64}
    (h : (source.cachedText? now).run fs = (found, between)) :
    between = fs ∨ ∃ cache entry, source.cache = some cache ∧
      cache.entry? CachedFeed.decode? catalogKey fs = some entry ∧ entry.isExpired now = true ∧
        between = cache.discard catalogKey fs := by
  have hconsults := source.consults now fs
  rw [h] at hconsults
  cases hconsults with
  | unused => exact .inl rfl
  | missed hcache hlooks =>
    cases hlooks with
    | missing => exact .inl rfl
    | expired hentry hexpired => exact .inr ⟨_, _, hcache, hentry, hexpired, rfl⟩
  | foreign => exact .inl rfl
  | hit => exact .inl rfl

/-- A fetch whose download races with cancellations and fails there, be it that the race is lost or
that the download itself fails, is a fetch that fails in the same way in circumstances that differ
in the interruption only; and it has changed nothing since the cache was asked. -/
theorem fetch_of_failed_race {future : FuturePolls String} {others : Nat → Nat} {flag : Bool}
    {n : Nat} {e : Error} (hmiss : (source.cachedText? c.startTime).run fs = (none, between))
    (hfuture : ∀ k result, future.EndsAt k result → result = downloadText source.url c.web between)
    (h : (RaceState.after others flag future n).result? = some (.error e)) :
    (∃ interruption, (source.fetch { c with interruption }).run fs = (.error e, between)) ∧
      (between = fs ∨ ∃ cache entry, source.cache = some cache ∧
        cache.entry? CachedFeed.decode? catalogKey fs = some entry ∧
        entry.isExpired c.startTime = true ∧ between = cache.discard catalogKey fs) := by
  obtain ⟨interruption, hstart, hdownload⟩ := download_of_race hfuture h
  refine ⟨⟨interruption, ?_⟩, files_of_consulting hmiss⟩
  rw [run_fetch hstart, hmiss]
  dsimp only
  rw [hdownload]

/-- A fetch that fails leaves all files as they were, unless the cache held an entry that was too
old: that entry may have been removed, and nothing else has changed. -/
theorem failed_fetch_keeps_cache {e : Error} (h : (source.fetch c).run fs = (.error e, fs')) :
    fs' = fs ∨ ∃ cache entry, source.cache = some cache ∧
      cache.entry? CachedFeed.decode? catalogKey fs = some entry ∧
      entry.isExpired c.startTime = true ∧
      (∀ place, fs'.nodeAt? place = fs.nodeAt? place ∨
        fs.locateEntry (cache.path catalogKey) = .ok (some place) ∧ fs'.nodeAt? place = none) ∧
      (fs.IsTree → fs'.canonicalize? (cache.path catalogKey) = none) := by
  rcases consulted_of_fetch_error h with rfl | ⟨found, hconsulted⟩
  · exact .inl rfl
  rcases files_of_consulting hconsulted with rfl | ⟨cache, entry, hcache, hentry, hexpired, rfl⟩
  · exact .inl rfl
  · exact .inr ⟨cache, entry, hcache, hentry, hexpired, cache.nodeAt?_discard_eq catalogKey fs,
      fun hs => Cache.canonicalize?_discard hs (by decide) hentry⟩

namespace ForeignEntry

/-- A source at another URL than that of the entry. -/
def otherSource : CatalogSource := { TwoFetches.source with url := "http://b/" }

def circumstances : FetchCircumstances :=
  { StrayEntry.circumstances 30 with interruption := .whileDownloading }

theorem cache_otherSource : otherSource.cache = some TwoFetches.cache :=
  rfl

/-- The entry is not too old yet, but it came from another URL. -/
theorem misses : (otherSource.cachedText? circumstances.startTime).run StrayEntry.files =
    (none, StrayEntry.files) := by
  rw [run_cachedText? cache_otherSource, Cache.run_load?, StrayEntry.entry_files]
  rfl

end ForeignEntry

/-- The cache holds an entry for another URL, the download is interrupted, and the entry stays. -/
theorem interrupted_fetch_keeps_entry :
    ∃ fs', (ForeignEntry.otherSource.fetch ForeignEntry.circumstances).run StrayEntry.files =
        (.error .cancelled, fs') ∧
      TwoFetches.cache.entry? CachedFeed.decode? catalogKey fs' =
        some ⟨⟨"http://a/", "oops"⟩, 5, 60⟩ := by
  obtain ⟨fs', hfails⟩ :
      ∃ fs', (ForeignEntry.otherSource.fetch ForeignEntry.circumstances).run StrayEntry.files =
        (.error .cancelled, fs') := by
    rw [run_fetch (by decide), ForeignEntry.misses]
    exact ⟨_, rfl⟩
  refine ⟨fs', hfails, ?_⟩
  -- The entry could only have been removed if it had expired.
  rcases failed_fetch_keeps_cache hfails with rfl | ⟨cache, entry, hcache, hentry, hexpired, -⟩
  · exact StrayEntry.entry_files
  · obtain rfl := Option.some.inj (ForeignEntry.cache_otherSource.symm.trans hcache)
    rw [StrayEntry.entry_files] at hentry
    obtain rfl := Option.some.inj hentry
    exact absurd hexpired (by decide)

end CatalogSource

end JdkFinder
