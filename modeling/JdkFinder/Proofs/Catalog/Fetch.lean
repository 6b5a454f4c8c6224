import JdkFinder.Proofs.Catalog.Cache

/-!
# What a fetch of the catalog does

A fetch is cancelled before it starts, is answered from the cache, or downloads a text, which may
fail, be no feed, or be kept in the cache (`CatalogSource.Fetches`).
-/

namespace JdkFinder

namespace CatalogSource

variable {source : CatalogSource} {fs : FileSystem} {now : UInt64} {c : FetchCircumstances}

/-! ## §1 The cache -/

/-- What the cache can hold for a source. -/
inductive Consults (source : CatalogSource) (now : UInt64) (fs : FileSystem) :
    Option String → FileSystem → Prop where
  /-- The source has no cache. -/
  | unused (hcache : source.cache = none) : Consults source now fs none fs
  /-- There is no entry, or it is too old and is removed. -/
  | missed {cache : Cache} {fs' : FileSystem} (hcache : source.cache = some cache)
      (h : cache.LooksUp CachedFeed.decode? catalogKey now fs none fs') :
      Consults source now fs none fs'
  /-- The entry came from another URL. -/
  | foreign {cache : Cache} {feed : CachedFeed} (hcache : source.cache = some cache)
      (h : cache.LooksUp CachedFeed.decode? catalogKey now fs (some feed) fs)
      (hurl : feed.url ≠ source.url) : Consults source now fs none fs
  | hit {cache : Cache} {feed : CachedFeed} (hcache : source.cache = some cache)
      (h : cache.LooksUp CachedFeed.decode? catalogKey now fs (some feed) fs)
      (hurl : feed.url = source.url) : Consults source now fs (some feed.text) fs

/-- What is found in the cache counts if it came from the URL of the source. -/
theorem run_cachedText? {cache : Cache} (hcache : source.cache = some cache) (now : UInt64)
    (fs : FileSystem) :
    (source.cachedText? now).run fs =
      (((cache.load? CachedFeed.decode? catalogKey now).run fs).1.bind fun feed =>
          if feed.url = source.url then some feed.text else none,
        ((cache.load? CachedFeed.decode? catalogKey now).run fs).2) := by
  unfold cachedText?
  rw [hcache]
  dsimp only
  rw [run_state_bind]
  cases ((cache.load? CachedFeed.decode? catalogKey now).run fs).1 with
  | none => rfl
  | some feed => rfl

theorem run_cachedText?_uncached (hcache : source.cache = none) (now : UInt64) (fs : FileSystem) :
    (source.cachedText? now).run fs = (none, fs) := by
  unfold cachedText?
  rw [hcache]
  rfl

theorem consults (source : CatalogSource) (now : UInt64) (fs : FileSystem) :
    Consults source now fs ((source.cachedText? now).run fs).1
      ((source.cachedText? now).run fs).2 := by
  cases hcache : source.cache with
  | none =>
    rw [run_cachedText?_uncached hcache]
    exact .unused hcache
  | some cache =>
    have hlooks := cache.looksUp CachedFeed.decode? catalogKey now fs
    rw [run_cachedText? hcache]
    rcases hload : (cache.load? CachedFeed.decode? catalogKey now).run fs with ⟨_ | feed, fs'⟩
    · rw [hload] at hlooks
      exact .missed hcache hlooks
    · rw [hload] at hlooks
      -- An entry that is found is left where it is.
      obtain rfl : fs' = fs := by
        cases hlooks
        rfl
      dsimp only
      rw [Option.bind_some]
      split
      · rename_i hurl
        exact .hit hcache hlooks hurl
      · rename_i hurl
        exact .foreign hcache hlooks hurl

/-! ## §2 Fetching -/

/-- What a fetch can come to, and what it leaves behind. -/
inductive Fetches (source : CatalogSource) (c : FetchCircumstances) (fs : FileSystem) :
    Except Error (List DownloadableJdk) → FileSystem → Prop where
  | cancelled (h : c.interruption = .beforeStart) : Fetches source c fs (.error .cancelled) fs
  /-- The cache holds a text. -/
  | cached {text : String} (hstart : c.interruption ≠ .beforeStart)
      (hcache : (source.cachedText? c.startTime).run fs = (some text, fs)) :
      Fetches source c fs (Feed.parse text source.platform) fs
  /-- There is no text to be had. -/
  | failed {between : FileSystem} {e : Error} (hstart : c.interruption ≠ .beforeStart)
      (hcache : (source.cachedText? c.startTime).run fs = (none, between))
      (hdownload : source.download c between = .error e) :
      Fetches source c fs (.error e) between
  /-- What has been downloaded is no feed. -/
  | rejected {between : FileSystem} {text : String} {e : Error}
      (hstart : c.interruption ≠ .beforeStart)
      (hcache : (source.cachedText? c.startTime).run fs = (none, between))
      (hdownload : source.download c between = .ok text)
      (hparse : Feed.parse text source.platform = .error e) :
      Fetches source c fs (.error e) between
  /-- What has been downloaded is kept. -/
  | downloaded {between : FileSystem} {text : String} {jdks : List DownloadableJdk}
      (hstart : c.interruption ≠ .beforeStart)
      (hcache : (source.cachedText? c.startTime).run fs = (none, between))
      (hdownload : source.download c between = .ok text)
      (hparse : Feed.parse text source.platform = .ok jdks) :
      Fetches source c fs (.ok jdks) ((source.remember text c.endTime).run between).2

/-- A fetch that is not cancelled at once, along what the cache holds and what is downloaded. -/
theorem run_fetch (hstart : c.interruption ≠ .beforeStart) :
    (source.fetch c).run fs = match (source.cachedText? c.startTime).run fs with
      | (some text, fs') => (Feed.parse text source.platform, fs')
      | (none, between) => match source.download c between with
        | .error e => (.error e, between)
        | .ok text => match Feed.parse text source.platform with
          | .error e => (.error e, between)
          | .ok jdks => (.ok jdks, ((source.remember text c.endTime).run between).2) := by
  unfold fetch
  rw [if_neg hstart, run_lift_bind]
  rcases (source.cachedText? c.startTime).run fs with ⟨_ | text, between⟩
  · -- Neither the download nor the parser touches the files.
    dsimp only
    rw [run_bind]
    have hask : (Action.ask (source.download c)).run between =
        (source.download c between, between) := rfl
    rw [hask]
    cases source.download c between with
    | error e => rfl
    | ok text =>
      dsimp only
      rw [run_bind]
      have hparse : (Action.ofExcept (Feed.parse text source.platform)).run between =
          (Feed.parse text source.platform, between) := rfl
      rw [hparse]
      cases Feed.parse text source.platform <;> rfl
  · rfl

theorem fetches (source : CatalogSource) (c : FetchCircumstances) (fs : FileSystem) :
    Fetches source c fs ((source.fetch c).run fs).1 ((source.fetch c).run fs).2 := by
  by_cases hstart : c.interruption = .beforeStart
  · have hrun : (source.fetch c).run fs = (.error .cancelled, fs) := by
      unfold fetch
      rw [if_pos hstart]
      rfl
    rw [hrun]
    exact .cancelled hstart
  rw [run_fetch hstart]
  have hconsults := source.consults c.startTime fs
  rcases hcache : (source.cachedText? c.startTime).run fs with ⟨_ | text, between⟩
  · dsimp only
    cases hdownload : source.download c between with
    | error e => exact .failed hstart hcache hdownload
    | ok text =>
      dsimp only
      cases hparse : Feed.parse text source.platform with
      | error e => exact .rejected hstart hcache hdownload hparse
      | ok jdks => exact .downloaded hstart hcache hdownload hparse
  · -- A text that the cache gives leaves the files as they are.
    rw [hcache] at hconsults
    cases hconsults with
    | hit => exact .cached hstart hcache

theorem fetches_of_run {result : Except Error (List DownloadableJdk)} {fs' : FileSystem}
    (h : (source.fetch c).run fs = (result, fs')) : Fetches source c fs result fs' := by
  have hfetches := source.fetches c fs
  rwa [h] at hfetches

/-- A fetch that fails has done nothing to the files but to ask the cache. -/
theorem consulted_of_fetch_error {e : Error} {fs' : FileSystem}
    (h : (source.fetch c).run fs = (.error e, fs')) :
    fs' = fs ∨ ∃ found, (source.cachedText? c.startTime).run fs = (found, fs') := by
  generalize hresult : Except.error e = result at h
  cases fetches_of_run h with
  | cancelled => exact .inl rfl
  | cached _ hcache => exact .inr ⟨_, hcache⟩
  | failed _ hcache => exact .inr ⟨_, hcache⟩
  | rejected _ hcache => exact .inr ⟨_, hcache⟩
  | downloaded => cases hresult

section Misses

variable {between fs' : FileSystem} {jdks : List DownloadableJdk}
  (hmiss : (source.cachedText? c.startTime).run fs = (none, between))

include hmiss

/-- After a miss a list is that of a downloaded text. -/
theorem exists_download_of_miss (h : (source.fetch c).run fs = (.ok jdks, fs')) :
    c.interruption ≠ .beforeStart ∧ ∃ text, source.download c between = .ok text ∧
      Feed.parse text source.platform = .ok jdks := by
  generalize hresult : Except.ok jdks = result at h
  cases fetches_of_run h with
  | cancelled => cases hresult
  | cached _ hhit =>
    rw [hmiss] at hhit
    cases hhit
  | failed => cases hresult
  | rejected => cases hresult
  | downloaded hstart hcache hdownload hparse =>
    rw [hmiss] at hcache
    cases hcache
    cases hresult
    exact ⟨hstart, _, hdownload, hparse⟩

/-- After a miss a fetch that fails changes nothing more, if it has got that far. -/
theorem files_of_fetch_error {e : Error} (h : (source.fetch c).run fs = (.error e, fs')) :
    fs' = fs ∨ fs' = between := by
  rcases consulted_of_fetch_error h with hsame | ⟨found, hconsulted⟩
  · exact .inl hsame
  · rw [hmiss] at hconsulted
    exact .inr (Prod.mk.inj hconsulted).2.symm

end Misses

/-- A URL of the web is asked for its text, whatever the files are. -/
theorem downloadText_of_http {url : String} {web : Web} {reply : WebReply}
    (hscheme : (Url.parse url).toOption.map (·.scheme) = some "http".toList)
    (hreply : ∀ asked, web asked = reply) :
    downloadText url web fs = (reply.text url).mapError .network := by
  unfold downloadText
  cases hparse : Url.parse url with
  | error e =>
    rw [hparse] at hscheme
    cases hscheme
  | ok parsed =>
    rw [hparse] at hscheme
    have hparsed : parsed.scheme = "http".toList := Option.some.inj hscheme
    have hhttp : String.ofList parsed.scheme = "http" := by
      rw [hparsed, String.ofList_toList]
    dsimp only
    rw [hhttp, if_neg (by decide), Web.fetchText]
    simp only [hhttp, hreply, true_or, if_true]

/-! ## §3 Files after a fetch -/

variable {cache : Cache} {text : String}

theorem run_remember (hcache : source.cache = some cache) (text : String) :
    ((source.remember text now).run fs).2 =
      ((cache.save catalogKey (CachedFeed.encode ⟨source.url, text⟩) now).run fs).2 := by
  unfold remember
  rw [hcache]
  rfl

theorem run_remember_uncached (hcache : source.cache = none) (text : String) :
    ((source.remember text now).run fs).2 = fs := by
  unfold remember
  rw [hcache]
  rfl

theorem isTree_remember (hs : fs.IsTree) (text : String) :
    ((source.remember text now).run fs).2.IsTree := by
  cases hcache : source.cache with
  | none =>
    rw [run_remember_uncached hcache]
    exact hs
  | some cache =>
    rw [run_remember hcache]
    exact cache.isTree_save hs _ _ _

theorem Consults.isTree {found : Option String} {fs' : FileSystem}
    (h : Consults source now fs found fs') (hs : fs.IsTree) : fs'.IsTree := by
  cases h with
  | unused => exact hs
  | missed _ hlooks =>
    cases hlooks with
    | missing => exact hs
    | expired => exact hs.removeFile _
  | foreign => exact hs
  | hit => exact hs

/-- Asking the cache makes nothing readable. -/
theorem Consults.readText {found : Option String} {fs' : FileSystem} {path : String}
    (h : Consults source now fs found fs') (hread : fs'.readText path = .ok text) :
    fs.readText path = .ok text := by
  cases h with
  | unused => exact hread
  | missed _ hlooks =>
    cases hlooks with
    | missing => exact hread
    | expired => exact FileSystem.readText_of_removeFile hread
  | foreign => exact hread
  | hit => exact hread

theorem Fetches.isTree {result : Except Error (List DownloadableJdk)} {fs' : FileSystem}
    (h : Fetches source c fs result fs') (hs : fs.IsTree) : fs'.IsTree := by
  have hbetween {found : Option String} {between : FileSystem}
      (hcache : (source.cachedText? c.startTime).run fs = (found, between)) : between.IsTree := by
    have hconsults := source.consults c.startTime fs
    rw [hcache] at hconsults
    exact hconsults.isTree hs
  cases h with
  | cancelled => exact hs
  | cached => exact hs
  | failed _ hcache => exact hbetween hcache
  | rejected _ hcache => exact hbetween hcache
  | downloaded _ hcache => exact isTree_remember (hbetween hcache) _

end CatalogSource

end JdkFinder
