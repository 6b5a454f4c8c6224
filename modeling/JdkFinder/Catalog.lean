import JdkFinder.Cache
import JdkFinder.Feed
import JdkFinder.Web

/-!
# The catalog

The catalog of downloadable JDKs is a feed at a URL: a file of this machine or a document of the
web.  A feed that has been fetched and understood is kept in the cache with its URL, and is used
from there as long as it may be.  A failure leaves the cache alone.
-/

namespace JdkFinder

/-! ## §1 Sources -/

/-- Where the catalog comes from, and for which platform. -/
structure CatalogSource where
  url : String
  platform : Platform
  cache : Option Cache
  deriving DecidableEq, Repr

/-- When a fetch is cancelled. -/
inductive FetchInterruption where
  | never
  | beforeStart
  | whileDownloading
  deriving DecidableEq, Repr

/-- What a fetch meets with: the web, the clock when it starts and ends, and a cancellation. -/
structure FetchCircumstances where
  web : Web
  startTime : UInt64
  endTime : UInt64
  interruption : FetchInterruption

/-! ## §2 Feeds in the cache -/

/-- A feed in the cache: its text, and the URL that it came from. -/
structure CachedFeed where
  url : String
  text : String
  deriving DecidableEq, Repr

namespace CachedFeed

/-- A feed as a record. -/
def encode (feed : CachedFeed) : Json :=
  .object [("url", .string feed.url), ("text", .string feed.text)]

/-- The feed that a record describes. -/
def decode? (j : Json) : Option CachedFeed := do
  match ← Json.slots? [["url"], ["text"]] j with
  | [url, text] => some ⟨← url.required? Json.asText?, ← text.required? Json.asText?⟩
  | _ => none

end CachedFeed

/-- The key of the catalog in the cache. -/
def catalogKey : String := "jdk_catalog"

/-! ## §3 Fetching -/

/-- The text at a URL. -/
def downloadText (url : String) (web : Web) (fs : FileSystem) : Except Error String :=
  match Url.parse url with
  | .error e => .error (.validation "catalog_url" (url ++ ": " ++ e.message))
  | .ok parsed =>
    if String.ofList parsed.scheme = "file" then
      match parsed.filePath? with
      | none => .error (.validation "catalog_url" url)
      | some path => (fs.readTextAt path).mapError .io
    else (web.fetchText url parsed).mapError .network

namespace CatalogSource

/-- The text that the cache holds for the URL of the source. -/
def cachedText? (source : CatalogSource) (now : UInt64) : StateM FileSystem (Option String) := do
  match source.cache with
  | none => pure none
  | some cache =>
    match ← cache.load? CachedFeed.decode? catalogKey now with
    | some feed => pure (if feed.url = source.url then some feed.text else none)
    | none => pure none

/-- Keeps a text in the cache.  A failure to do so is no failure of the fetch. -/
def remember (source : CatalogSource) (text : String) (now : UInt64) :
    StateM FileSystem Unit := do
  match source.cache with
  | none => pure ()
  | some cache =>
    let _ ← (cache.save catalogKey (CachedFeed.encode ⟨source.url, text⟩) now).run

/-- The downloaded text, unless the download is cancelled. -/
def download (source : CatalogSource) (c : FetchCircumstances) (fs : FileSystem) :
    Except Error String :=
  if c.interruption = .whileDownloading then .error .cancelled
  else downloadText source.url c.web fs

/-- The JDKs of the catalog. -/
def fetch (source : CatalogSource) (c : FetchCircumstances) : Action (List DownloadableJdk) := do
  if c.interruption = .beforeStart then throw .cancelled
  match ← source.cachedText? c.startTime with
  | some text => Action.ofExcept (Feed.parse text source.platform)
  | none =>
    let text ← Action.ask (source.download c)
    let jdks ← Action.ofExcept (Feed.parse text source.platform)
    source.remember text c.endTime
    pure jdks

end CatalogSource

end JdkFinder
