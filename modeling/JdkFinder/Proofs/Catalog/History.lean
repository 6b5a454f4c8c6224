import JdkFinder.Proofs.Catalog.Fetch

/-!
# A catalog belongs to its URL

Fetches of several URLs may share one cache directory, where they all use the same file.  Whatever
becomes of them, a list that one of them gives is that of a text which was downloaded from its own
URL, and a text in the cache is one that was understood as a feed (`CatalogHistory.belongs_to_url`).

The invariant is about the file of the cache: an entry in it was put there by a fetch of the URL
that it names, after the text had been understood (`HoldsAccepted`).
-/

namespace JdkFinder

/-! ## §1 Histories of fetches -/

/-- A fetch, and the files that it meets with. -/
structure CatalogFetch where
  source : CatalogSource
  circumstances : FetchCircumstances
  files : FileSystem

namespace CatalogFetch

/-- What the fetch comes to. -/
def result (fetch : CatalogFetch) : Except Error (List DownloadableJdk) :=
  ((fetch.source.fetch fetch.circumstances).run fetch.files).1

/-- The files after the fetch. -/
def filesAfter (fetch : CatalogFetch) : FileSystem :=
  ((fetch.source.fetch fetch.circumstances).run fetch.files).2

/-- The fetch is answered from the cache, with a text. -/
def IsAnswered (fetch : CatalogFetch) (text : String) : Prop :=
  fetch.circumstances.interruption ≠ .beforeStart ∧
    ((fetch.source.cachedText? fetch.circumstances.startTime).run fetch.files).1 = some text

/-- The fetch is not answered from the cache and downloads a text. -/
def Downloads (fetch : CatalogFetch) (text : String) : Prop :=
  fetch.circumstances.interruption ≠ .beforeStart ∧ ∃ between,
    (fetch.source.cachedText? fetch.circumstances.startTime).run fetch.files = (none, between) ∧
      fetch.source.download fetch.circumstances between = .ok text

end CatalogFetch

/-- A text came from a URL by one of the fetches. -/
def Delivered (fetches : List CatalogFetch) (url text : String) : Prop :=
  ∃ fetch ∈ fetches, fetch.source.url = url ∧ fetch.Downloads text

/-- A text came from a URL by one of the fetches, which understood it as a feed. -/
def Accepted (fetches : List CatalogFetch) (url text : String) : Prop :=
  ∃ fetch ∈ fetches, fetch.source.url = url ∧ fetch.Downloads text ∧
    ∃ jdks, Feed.parse text fetch.source.platform = .ok jdks

/-- A source that has its cache, if it has one, in the given directory. -/
def CatalogSource.Uses (source : CatalogSource) (directory : String) : Prop :=
  ∀ cache, source.cache = some cache → cache.directory = directory

/-- The file of the catalog in a cache directory. -/
def catalogFile (directory : String) : String :=
  Path.join directory (catalogKey ++ ".json")

/-- Fetches one after another, last first, and the files after them.  The fetches may be of any URL,
for any platform and in any circumstances; those with a cache share its directory, where no file of
the catalog is at the start. -/
inductive CatalogHistory (directory : String) : List CatalogFetch → FileSystem → Prop where
  | start {fs : FileSystem} (htree : fs.IsTree)
      (hnone : fs.isFile (catalogFile directory) = false) : CatalogHistory directory [] fs
  /-- Between two fetches any files may change, but nobody else puts a text into the file of the
  catalog. -/
  | change {fetches : List CatalogFetch} {fs fs' : FileSystem}
      (h : CatalogHistory directory fetches fs) (htree : fs'.IsTree)
      (hkept : ∀ text, fs'.readText (catalogFile directory) = .ok text →
        fs.readText (catalogFile directory) = .ok text) :
      CatalogHistory directory fetches fs'
  | fetch {fetches : List CatalogFetch} (fetch : CatalogFetch)
      (h : CatalogHistory directory fetches fetch.files) (hshared : fetch.source.Uses directory) :
      CatalogHistory directory (fetch :: fetches) fetch.filesAfter

/-! ## §2 The file of the catalog -/

/-- What the file of the catalog holds, if it holds an entry, was understood before it was saved. -/
structure HoldsAccepted (directory : String) (fetches : List CatalogFetch) (fs : FileSystem) :
    Prop where
  isTree : fs.IsTree
  accepted : ∀ text entry, fs.readText (catalogFile directory) = .ok text →
    CacheEntry.parse? CachedFeed.decode? text = some entry →
      Accepted fetches entry.data.url entry.data.text

theorem Accepted.cons {fetches : List CatalogFetch} {url text : String}
    (h : Accepted fetches url text) (fetch : CatalogFetch) :
    Accepted (fetch :: fetches) url text := by
  obtain ⟨other, hmem, hother⟩ := h
  exact ⟨other, List.mem_cons_of_mem fetch hmem, hother⟩

/-- Whether a text is a feed does not depend on the platform. -/
theorem Feed.exists_of_parse {text : String} {platform : Platform} {jdks : List DownloadableJdk}
    (h : Feed.parse text platform = .ok jdks) (other : Platform) :
    ∃ offers, Feed.parse text other = .ok offers := by
  unfold Feed.parse at h ⊢
  split at h
  · rename_i elements helements
    exact ⟨_, rfl⟩
  · cases h

/-- A fetch leaves only understood texts in the cache. -/
theorem HoldsAccepted.fetch {directory : String} {fetches : List CatalogFetch}
    {fetch : CatalogFetch} (h : HoldsAccepted directory fetches fetch.files)
    (hshared : fetch.source.Uses directory) :
    HoldsAccepted directory (fetch :: fetches) fetch.filesAfter := by
  obtain ⟨source, c, fs⟩ := fetch
  have hfetches := source.fetches c fs
  have hconsults := source.consults c.startTime fs
  refine ⟨hfetches.isTree h.isTree, fun text entry hread hparse => ?_⟩
  -- What was readable before the fetch is covered by the fetches before.
  have hold (hbefore : fs.readText (catalogFile directory) = .ok text) :
      Accepted (⟨source, c, fs⟩ :: fetches) entry.data.url entry.data.text :=
    (h.accepted text entry hbefore hparse).cons _
  rw [CatalogFetch.filesAfter] at hread
  generalize ((source.fetch c).run fs).1 = result at hfetches
  generalize ((source.fetch c).run fs).2 = fs' at hfetches hread
  cases hfetches with
  | cancelled => exact hold hread
  | cached => exact hold hread
  | failed _ hcache =>
    rw [hcache] at hconsults
    exact hold (hconsults.readText hread)
  | rejected _ hcache =>
    rw [hcache] at hconsults
    exact hold (hconsults.readText hread)
  | @downloaded between feed jdks hstart hcache hdownload hfeed =>
    rw [hcache] at hconsults
    cases hsource : source.cache with
    | none =>
      rw [CatalogSource.run_remember_uncached hsource] at hread
      exact hold (hconsults.readText hread)
    | some cache =>
      -- The entry is the one that has just been saved.
      rw [CatalogSource.run_remember hsource, ← hshared cache hsource] at hread
      have htext := Cache.readText_of_save (hconsults.isTree h.isTree) (by decide) hread
      rw [htext, CacheEntry.parse?_render _ _ (CachedFeed.plain_encode _),
        CachedFeed.decode?_encode] at hparse
      cases hparse
      exact ⟨⟨source, c, fs⟩, List.mem_cons_self, rfl, ⟨hstart, between, hcache, hdownload⟩, jdks,
        hfeed⟩

theorem HoldsAccepted.entry {cache : Cache} {fetches : List CatalogFetch} {fs : FileSystem}
    {entry : CacheEntry CachedFeed} (h : HoldsAccepted cache.directory fetches fs)
    (hentry : cache.entry? CachedFeed.decode? catalogKey fs = some entry) :
    Accepted fetches entry.data.url entry.data.text := by
  obtain ⟨text, hread, hparse⟩ := Option.bind_eq_some_iff.mp hentry
  cases hfile : fs.readText (cache.path catalogKey) with
  | error e =>
    rw [hfile] at hread
    cases hread
  | ok other =>
    rw [hfile] at hread
    cases hread
    exact h.accepted text entry hfile hparse

/-- A text from the cache was understood by a fetch of the same URL, and is understood again. -/
theorem HoldsAccepted.answered {directory : String} {earlier : List CatalogFetch}
    {fetch : CatalogFetch} {text : String} (h : HoldsAccepted directory earlier fetch.files)
    (hshared : fetch.source.Uses directory)
    (hanswered : fetch.IsAnswered text) :
    Accepted earlier fetch.source.url text ∧
      ∃ jdks, Feed.parse text fetch.source.platform = .ok jdks ∧ fetch.result = .ok jdks := by
  obtain ⟨hstart, hfound⟩ := hanswered
  have hconsults := fetch.source.consults fetch.circumstances.startTime fetch.files
  rcases hrun : (fetch.source.cachedText? fetch.circumstances.startTime).run fetch.files with
    ⟨found, fs'⟩
  rw [hrun] at hconsults hfound
  cases hfound
  have haccepted : Accepted earlier fetch.source.url text := by
    -- Only a hit answers from the cache, and its entry was checked against the URL.
    cases hconsults with
    | @hit cache feed hcache hlooks hurl =>
      cases hlooks with
      | found hentry =>
        rw [← hshared cache hcache] at h
        exact hurl ▸ h.entry hentry
  have ⟨_, _, _, _, jdks, hparse⟩ := haccepted
  -- The accepted text parses for some platform, and so it does for this one.
  obtain ⟨offers, hoffers⟩ := Feed.exists_of_parse hparse fetch.source.platform
  refine ⟨haccepted, offers, hoffers, ?_⟩
  rw [CatalogFetch.result, CatalogSource.run_fetch hstart, hrun]
  exact hoffers

/-- A list that a fetch gives is that of a text which came from its URL. -/
theorem HoldsAccepted.result {directory : String} {earlier : List CatalogFetch}
    {fetch : CatalogFetch} {jdks : List DownloadableJdk}
    (h : HoldsAccepted directory earlier fetch.files)
    (hshared : fetch.source.Uses directory)
    (hresult : fetch.result = .ok jdks) :
    ∃ text, Delivered (fetch :: earlier) fetch.source.url text ∧
      Feed.parse text fetch.source.platform = .ok jdks := by
  have hfetches := fetch.source.fetches fetch.circumstances fetch.files
  rw [← CatalogFetch.result] at hfetches
  generalize fetch.result = outcome at hfetches hresult
  generalize ((fetch.source.fetch fetch.circumstances).run fetch.files).2 = fs' at hfetches
  cases hfetches with
  | cancelled => cases hresult
  | @cached text hstart hcache =>
    have hanswered : fetch.IsAnswered text := ⟨hstart, by rw [hcache]⟩
    -- A text out of the cache was delivered to the earlier fetch that left it there.
    obtain ⟨⟨other, hmem, hurl, hdownloads, -⟩, -⟩ := h.answered hshared hanswered
    exact ⟨text, ⟨other, List.mem_cons_of_mem _ hmem, hurl, hdownloads⟩, hresult⟩
  | failed => cases hresult
  | rejected => cases hresult
  | @downloaded between text _ hstart hcache hdownload hparse =>
    cases hresult
    exact ⟨text, ⟨fetch, List.mem_cons_self, rfl, hstart, between, hcache, hdownload⟩, hparse⟩

/-! ## §3 Every history -/

namespace CatalogHistory

variable {directory : String} {fetches : List CatalogFetch} {fs : FileSystem}

/-- After any history the cache holds understood texts only. -/
theorem holdsAccepted (h : CatalogHistory directory fetches fs) :
    HoldsAccepted directory fetches fs := by
  -- The invariant holds where there is no file, and is kept by every fetch.
  induction h with
  | @start fs htree hnone =>
    refine ⟨htree, fun text entry hread _ => ?_⟩
    have hfile : fs.fileOf? (catalogFile directory) = none := by
      rw [FileSystem.isFile] at hnone
      exact Option.not_isSome_iff_eq_none.mp (Bool.eq_false_iff.mp hnone)
    have hunreadable := fs.toOption_readText (catalogFile directory)
    rw [hread, hfile] at hunreadable
    cases hunreadable
  | change _ htree hkept ih =>
    exact ⟨htree, fun text entry hread => ih.accepted text entry (hkept text hread)⟩
  | fetch fetch _ hshared ih => exact ih.fetch hshared

/-- Every fetch of a history comes after a history of its own. -/
theorem before {fetch : CatalogFetch} {earlier : List CatalogFetch}
    (h : CatalogHistory directory fetches fs) (hfetch : fetch :: earlier <:+ fetches) :
    CatalogHistory directory earlier fetch.files ∧ fetch.source.Uses directory := by
  induction h with
  | start => exact absurd (List.suffix_nil.mp hfetch) (by simp)
  | change _ _ _ ih => exact ih hfetch
  | fetch last hbefore hshared ih =>
    rcases List.suffix_cons_iff.mp hfetch with hlast | hfetch
    · -- It is the last fetch of all.
      cases hlast
      exact ⟨hbefore, hshared⟩
    · exact ih hfetch

/-- Whatever fetches there were: a fetch that gives a list gives that of a text which it or an
earlier one downloaded from the same URL; a fetch that is answered from the cache does not fail, and
its text had been downloaded from the same URL and understood; and so has every text in the
cache. -/
theorem belongs_to_url (h : CatalogHistory directory fetches fs) :
    (∀ fetch earlier, fetch :: earlier <:+ fetches →
      (∀ jdks, fetch.result = .ok jdks → ∃ text,
        Delivered (fetch :: earlier) fetch.source.url text ∧
          Feed.parse text fetch.source.platform = .ok jdks) ∧
      (∀ text, fetch.IsAnswered text → Accepted earlier fetch.source.url text ∧
        ∃ jdks, Feed.parse text fetch.source.platform = .ok jdks ∧ fetch.result = .ok jdks)) ∧
    ∀ (cache : Cache) (entry : CacheEntry CachedFeed), cache.directory = directory →
      cache.entry? CachedFeed.decode? catalogKey fs = some entry →
        Accepted fetches entry.data.url entry.data.text := by
  constructor
  · intro fetch earlier hfetch
    obtain ⟨hbefore, hshared⟩ := h.before hfetch
    have hholds := hbefore.holdsAccepted
    exact ⟨fun _ => hholds.result hshared, fun _ => hholds.answered hshared⟩
  · rintro cache entry rfl hentry
    exact h.holdsAccepted.entry hentry

end CatalogHistory

/-! ### A download and an answer from the cache -/

namespace TwoFetches

open FileSystem

/-- A cache in the directory of the root. -/
def cache : Cache := ⟨"/", 60⟩

def source : CatalogSource := ⟨"http://a/", ⟨"linux", "x64"⟩, some cache⟩

/-- A feed without JDKs. -/
def feed : String := "\x7b\x7d"

/-- The first fetch finds a machine without files, and the web answers. -/
def first : CatalogFetch := ⟨source, ⟨fun _ => .answered 200 (.ok feed), 5, 5, .never⟩, ⟨[], []⟩⟩

/-- The web is silent when the second fetch starts. -/
def second : CatalogFetch := ⟨source, ⟨fun _ => .silent "", 30, 30, .never⟩, first.filesAfter⟩

theorem isTree_files : first.files.IsTree :=
  isTree_root

theorem isName_file : IsName "jdk_catalog.json" := by
  decide

theorem walkable_file : walkable (catalogFile "/") = .ok ["", "jdk_catalog.json"] := by
  have hpath : catalogFile "/" = "/jdk_catalog.json" := by decide
  rw [hpath]
  rfl

theorem canonicalize?_file : first.files.canonicalize? (catalogFile "/") = none :=
  canonicalize?_eq_none walkable_file (ite_self []) isName_file rfl

theorem parse_feed (platform : Platform) : Feed.parse feed platform = .ok [] := by
  have helements : (Json.read? feed.toList).bind Feed.elements? = some [] := rfl
  rw [Feed.parse, helements]
  rfl

theorem scheme_url : (Url.parse "http://a/").toOption.map (·.scheme) = some "http".toList := by
  decide +kernel

/-- What the first fetch downloads does not depend on any files. -/
theorem first_downloads (fs : FileSystem) :
    first.source.download first.circumstances fs = .ok feed := by
  have hreply (asked : Url) : first.circumstances.web asked = .answered 200 (.ok feed) := rfl
  rw [CatalogSource.download, if_neg (by decide)]
  exact CatalogSource.downloadText_of_http scheme_url hreply

/-- The first fetch finds nothing in the cache. -/
theorem first_misses :
    (first.source.cachedText? first.circumstances.startTime).run first.files =
      (none, first.files) := by
  have hentry : cache.entry? CachedFeed.decode? catalogKey first.files = none := by
    have hpath : cache.path catalogKey = catalogFile "/" := rfl
    unfold Cache.entry?
    rw [toOption_readText, hpath, fileOf?, nodeOf?, canonicalize?_file]
    rfl
  have hcache : first.source.cache = some cache := rfl
  rw [CatalogSource.run_cachedText? hcache, Cache.run_load?, hentry]
  rfl

/-- The first fetch keeps what it has downloaded. -/
theorem first_saves :
    (cache.save catalogKey (CachedFeed.encode ⟨"http://a/", feed⟩) 5).run first.files =
      (.ok (), first.filesAfter) := by
  have hcache : first.source.cache = some cache := rfl
  have hafter : first.filesAfter =
      ((cache.save catalogKey (CachedFeed.encode ⟨"http://a/", feed⟩) 5).run first.files).2 := by
    rw [CatalogFetch.filesAfter, CatalogSource.run_fetch (by decide), first_misses]
    dsimp only
    rw [first_downloads]
    dsimp only
    rw [parse_feed]
    exact CatalogSource.run_remember hcache feed
  rw [hafter]
  exact Cache.run_save_on_root isName_file walkable_file

/-- What the first fetch has kept is found by the second. -/
theorem second_answered : second.IsAnswered feed := by
  have hcache : second.source.cache = some cache := rfl
  have hentry : cache.entry? CachedFeed.decode? catalogKey second.files =
      some ⟨⟨"http://a/", feed⟩, 5, 60⟩ :=
    Cache.entry?_of_save isTree_files (CachedFeed.plain_encode _) first_saves
  refine ⟨by decide, ?_⟩
  rw [CatalogSource.run_cachedText? hcache, Cache.run_load?, hentry]
  rfl

/-- The fetches one after the other. -/
theorem history : CatalogHistory "/" [second, first] second.filesAfter := by
  have huses : source.Uses "/" := by
    intro cache hcache
    cases hcache
    rfl
  have hnone : first.files.isFile (catalogFile "/") = false := by
    rw [isFile, fileOf?, nodeOf?, canonicalize?_file]
    rfl
  exact .fetch second (.fetch first (.start isTree_files hnone) huses) huses

end TwoFetches

/-- The second of two fetches is answered from the cache, with what the first one downloaded. -/
theorem second_fetch_answered_from_cache :
    TwoFetches.second.IsAnswered TwoFetches.feed ∧
      Accepted [TwoFetches.first] "http://a/" TwoFetches.feed ∧
      TwoFetches.second.result = .ok [] := by
  have hfetch := TwoFetches.history.belongs_to_url.1 TwoFetches.second [TwoFetches.first]
    (List.suffix_refl _)
  obtain ⟨haccepted, jdks, hparse, hresult⟩ := hfetch.2 _ TwoFetches.second_answered
  rw [TwoFetches.parse_feed] at hparse
  cases hparse
  exact ⟨TwoFetches.second_answered, haccepted, hresult⟩

end JdkFinder
