import JdkFinder.Files.Action
import JdkFinder.Json.Decode
import JdkFinder.Json.Printer
import JdkFinder.Json.Reader

/-!
# The cache

A store of documents that are used again for some time: one file per key, in one directory.  Each
entry records when it was saved and for how long it may be used.  Trouble with a file counts as a
missing entry, and an entry found too old is removed.

Times are given in seconds.
-/

namespace JdkFinder

/-! ## §1 Entries -/

structure CacheEntry (α : Type) where
  data : α
  /-- When the entry was saved. -/
  timestamp : UInt64
  /-- For how long the entry may be used. -/
  ttl : UInt64
  deriving DecidableEq, Repr

namespace CacheEntry

variable {α : Type}

/-- Whether an entry may not be used any more.  An entry from the future may be used. -/
def isExpired (entry : CacheEntry α) (now : UInt64) : Bool :=
  -- The difference of natural numbers is zero for an entry from the future.
  entry.ttl.toNat < now.toNat - entry.timestamp.toNat

/-- An entry as a record. -/
def encode (entry : CacheEntry Json) : Json :=
  .object
    [("data", entry.data), ("timestamp", .nat entry.timestamp.toNat), ("ttl", .nat entry.ttl.toNat)]

/-- The entry that a record describes. -/
def decode? (decodeData : Json → Option α) (j : Json) : Option (CacheEntry α) := do
  match ← Json.slots? [["data"], ["timestamp"], ["ttl"]] j with
  | [data, timestamp, ttl] =>
    some
      { data := ← data.required? decodeData
        timestamp := ← timestamp.required? Json.asWord64?
        ttl := ← ttl.required? Json.asWord64? }
  | _ => none

/-- The entry that a text describes. -/
def parse? (decodeData : Json → Option α) (text : String) : Option (CacheEntry α) :=
  (Json.read? text.toList).bind (decode? decodeData)

/-- The text of an entry. -/
def render (entry : CacheEntry Json) : String :=
  String.ofList entry.encode.pretty

end CacheEntry

/-! ## §2 The store -/

/-- A cache, with the time for which what is saved now may be used. -/
structure Cache where
  directory : String
  ttl : UInt64
  deriving DecidableEq, Repr

namespace Cache

variable {α : Type}

/-- The file of a key. -/
def path (cache : Cache) (key : String) : String :=
  Path.join cache.directory (key ++ ".json")

/-- Saves data under a key, in the stead of what was there. -/
def save (cache : Cache) (key : String) (data : Json) (now : UInt64) : Action Unit := do
  Action.ofFile (FileSystem.makeDirectories cache.directory)
  Action.ofFile (FileSystem.writeText (cache.path key) (CacheEntry.render ⟨data, now, cache.ttl⟩))

/-- The entry of a key, as far as its file can be read and understood. -/
def entry? (cache : Cache) (decodeData : Json → Option α) (key : String) (fs : FileSystem) :
    Option (CacheEntry α) :=
  (fs.readText (cache.path key)).toOption.bind (CacheEntry.parse? decodeData)

/-- The file system after an attempt to remove a file. -/
def discard (cache : Cache) (key : String) (fs : FileSystem) : FileSystem :=
  ((FileSystem.removeFile (cache.path key)).run fs).2

/-- The data of a key, if it may still be used. -/
def load? (cache : Cache) (decodeData : Json → Option α) (key : String) (now : UInt64) :
    StateM FileSystem (Option α) := do
  match cache.entry? decodeData key (← get) with
  | none => pure none
  | some entry =>
    if entry.isExpired now then
      -- An entry that cannot be removed counts as missing all the same.
      modify (cache.discard key)
      pure none
    else pure (some entry.data)

/-- Removes the entry of a key. -/
def clear (cache : Cache) (key : String) : Action Unit := do
  if ← Action.ask fun fs => (fs.tryHasPath (cache.path key)).mapError .io then
    Action.ofFile (FileSystem.removeFile (cache.path key))

end Cache

end JdkFinder
