import JdkFinder.Proofs.Catalog.Cache
import Mathlib.Logic.Function.Basic

/-!
# The cache is a timed store

What is saved, looked up and removed in one cache directory, under any keys without slashes, is
followed by a table of entries (`shelf`).  The files of the directory always hold exactly this table
(`Holds`), so looking a key up finds what was saved under it last, as long as that may be used
(`CacheHistory.timed_store`).
-/

namespace JdkFinder

/-! ## §1 What is done to a cache -/

/-- What can be done to a cache.  The data are texts. -/
inductive CacheOperation where
  | save (key data : String)
  | load (key : String)
  | clear (key : String)

/-- The key that an operation is about. -/
def CacheOperation.key : CacheOperation → String
  | .save key _ => key
  | .load key => key
  | .clear key => key

/-- An operation at a time.  What it saves may be used for the time `ttl`. -/
structure CacheEvent where
  time : UInt64
  ttl : UInt64
  operation : CacheOperation

namespace CacheEvent

def key (event : CacheEvent) : String :=
  event.operation.key

/-- An operation that succeeds turns the one file system into the other. -/
inductive Turns (directory : String) : CacheEvent → FileSystem → FileSystem → Prop where
  | save {time ttl : UInt64} {key data : String} {fs fs' : FileSystem}
      (h : ((⟨directory, ttl⟩ : Cache).save key (.string data) time).run fs = (.ok (), fs')) :
      Turns directory ⟨time, ttl, .save key data⟩ fs fs'
  | load {time ttl : UInt64} {key : String} {found : Option String} {fs fs' : FileSystem}
      (h : ((⟨directory, ttl⟩ : Cache).load? Json.asText? key time).run fs = (found, fs')) :
      Turns directory ⟨time, ttl, .load key⟩ fs fs'
  | clear {time ttl : UInt64} {key : String} {fs fs' : FileSystem}
      (h : ((⟨directory, ttl⟩ : Cache).clear key).run fs = (.ok (), fs')) :
      Turns directory ⟨time, ttl, .clear key⟩ fs fs'

/-- What becomes of the entry of the key. -/
def outcome (event : CacheEvent) (before : Option (CacheEntry String)) :
    Option (CacheEntry String) :=
  match event.operation with
  | .save _ data => some ⟨data, event.time, event.ttl⟩
  | .load _ => before.filter fun entry => !entry.isExpired event.time
  | .clear _ => none

end CacheEvent

/-- The name of the file of a key. -/
def entryName (key : String) : String :=
  key ++ ".json"

/-- No file of an entry is in the directory of a cache, also once the directory has been made. -/
structure IsFresh (directory : String) (fs : FileSystem) : Prop where
  isTree : fs.IsTree
  missing : ∀ made here key, (FileSystem.makeDirectories directory).run fs = (.ok (), made) →
    made.Opens directory here → '/' ∉ key.toList → made.nodeAt? (here ++ [entryName key]) = none

/-- Operations in one directory that succeed one after the other, given last first, and the files
after them.  Each of them may be about any key without a slash. -/
inductive CacheHistory (directory : String) : List CacheEvent → FileSystem → Prop where
  | start {fs : FileSystem} (h : IsFresh directory fs) : CacheHistory directory [] fs
  | step {events : List CacheEvent} {event : CacheEvent} {fs fs' : FileSystem}
      (h : CacheHistory directory events fs) (hkey : '/' ∉ event.key.toList)
      (hturns : event.Turns directory fs fs') :
      CacheHistory directory (event :: events) fs'

/-! ## §2 Tables of entries -/

/-- The entries after the operations, which are given last first. -/
def shelf : List CacheEvent → String → Option (CacheEntry String)
  | [] => fun _ => none
  | event :: earlier =>
    Function.update (shelf earlier) event.key (event.outcome (shelf earlier event.key))

/-- What was saved last under a key, unless it has been removed on request. -/
def lastSave? (key : String) : List CacheEvent → Option (CacheEntry String)
  | [] => none
  | event :: earlier =>
    match event.operation with
    | .save other data =>
      if other = key then some ⟨data, event.time, event.ttl⟩ else lastSave? key earlier
    | .load _ => lastSave? key earlier
    | .clear other => if other = key then none else lastSave? key earlier

section Tables

variable {events : List CacheEvent} {event : CacheEvent} {key : String} {now : UInt64}

theorem shelf_cons_self :
    shelf (event :: events) event.key = event.outcome (shelf events event.key) :=
  Function.update_self ..

theorem shelf_cons_of_ne (hkey : event.key ≠ key) :
    shelf (event :: events) key = shelf events key :=
  Function.update_of_ne (Ne.symm hkey) ..

theorem lastSave?_cons_of_ne (hkey : event.key ≠ key) :
    lastSave? key (event :: events) = lastSave? key events := by
  obtain ⟨time, ttl, operation⟩ := event
  cases operation with
  | save other data => exact if_neg hkey
  | load other => rfl
  | clear other => exact if_neg hkey

/-- An entry that is still to be used has been so before. -/
theorem isExpired_of_le {entry : CacheEntry String} {earlier : UInt64} (htime : earlier ≤ now)
    (hexpired : entry.isExpired earlier = true) : entry.isExpired now = true := by
  have hnat : earlier.toNat ≤ now.toNat := htime
  simp only [CacheEntry.isExpired, decide_eq_true_eq] at hexpired ⊢
  omega

/-- The entry in the table, if there is one, is the last one that was saved. -/
theorem shelf_eq_none_or (events : List CacheEvent) (key : String) :
    shelf events key = none ∨ shelf events key = lastSave? key events := by
  induction events with
  | nil => exact .inl rfl
  | cons event events ih =>
    by_cases hkey : event.key = key
    · subst hkey
      rw [shelf_cons_self]
      obtain ⟨time, ttl, operation⟩ := event
      cases operation with
      | save key data => exact .inr (if_pos rfl).symm
      | load key =>
        -- Looking up keeps the entry or takes it away.
        show (shelf events key).filter _ = none ∨ (shelf events key).filter _ = lastSave? key events
        rcases ih with hnone | hlast
        · exact .inl (by rw [show shelf events key = none from hnone, Option.filter_none])
        · rw [show shelf events key = lastSave? key events from hlast]
          cases lastSave? key events with
          | none => exact .inl rfl
          | some entry =>
            rw [Option.filter_some]
            split
            · exact .inr rfl
            · exact .inl rfl
      | clear key => exact .inl rfl
    · rw [shelf_cons_of_ne hkey, lastSave?_cons_of_ne hkey]
      exact ih

/-- The table and the last entry that was saved are the same to whoever asks late enough. -/
theorem filter_shelf (hnow : ∀ event ∈ events, event.time ≤ now) :
    (shelf events key).filter (fun entry => !entry.isExpired now) =
      (lastSave? key events).filter fun entry => !entry.isExpired now := by
  induction events with
  | nil => rfl
  | cons event events ih =>
    have hrest := ih fun earlier hearlier => hnow earlier (List.mem_cons_of_mem event hearlier)
    by_cases hkey : event.key = key
    · subst hkey
      have htime := hnow event List.mem_cons_self
      rw [shelf_cons_self]
      obtain ⟨time, ttl, operation⟩ := event
      cases operation with
      | save key data => exact congrArg _ (if_pos rfl).symm
      | load key =>
        -- What was too old when it was looked up is too old now.
        show ((shelf events key).filter _).filter _ = (lastSave? key events).filter _
        rw [← show _ = (lastSave? key events).filter _ from hrest, Option.filter_filter]
        congr 1
        funext entry
        cases hexpired : entry.isExpired time with
        | false => rfl
        | true => rw [isExpired_of_le htime hexpired]; rfl
      | clear key => exact congrArg _ (if_pos rfl).symm
    · rw [shelf_cons_of_ne hkey, lastSave?_cons_of_ne hkey]
      exact hrest

/-- What is not in the table comes into it by being saved only. -/
theorem shelf_append_eq_none {later : List CacheEvent} (hnone : shelf events key = none)
    (hlater : ∀ event ∈ later, ∀ data, event.operation ≠ .save key data) :
    shelf (later ++ events) key = none := by
  induction later with
  | nil => exact hnone
  | cons event later ih =>
    have hrest := ih fun other hother => hlater other (List.mem_cons_of_mem event hother)
    rw [List.cons_append]
    -- An event at another key does not touch what the shelf has at this one.
    by_cases hkey : event.key = key
    · subst hkey
      have hunsaved := hlater event List.mem_cons_self
      rw [shelf_cons_self, hrest]
      -- The key is not saved again, and neither looking it up nor clearing it brings an entry back.
      obtain ⟨time, ttl, operation⟩ := event
      cases operation with
      | save key data => exact absurd rfl (hunsaved data)
      | load key => rfl
      | clear key => rfl
    · rw [shelf_cons_of_ne hkey]
      exact hrest

end Tables

/-! ## §3 The files of a table -/

/-- The file of an entry. -/
def entryFile (entry : CacheEntry String) : RegularFile where
  content := (CacheEntry.render ⟨.string entry.data, entry.timestamp, entry.ttl⟩).toUTF8
  executable := false
  program := none

theorem content_entryFile (entry : CacheEntry String) : (entryFile entry).content =
    (CacheEntry.render ⟨.string entry.data, entry.timestamp, entry.ttl⟩).toUTF8 := by
  rw [entryFile]

theorem entryFile_eq (entry : CacheEntry String) :
    ⟨(entryFile entry).content, false, none⟩ = entryFile entry := by
  rw [entryFile]

/-- The file of an entry describes it. -/
theorem parse?_entryFile (entry : CacheEntry String) :
    (String.fromUTF8? (entryFile entry).content).bind (CacheEntry.parse? Json.asText?) =
      some entry := by
  rw [content_entryFile, FileSystem.fromUTF8?_toUTF8, Option.bind_some]
  exact CacheEntry.parse?_render entry.timestamp entry.ttl (.string entry.data)

/-- The files in the directory of a cache are those of a table, and nothing else stands where an
entry of the cache would. -/
structure Holds (directory : String) (fs : FileSystem)
    (table : String → Option (CacheEntry String)) : Prop where
  isTree : fs.IsTree
  /-- The path of an entry leads into the directory. -/
  opened : ∀ key, table key ≠ none → (∃ here, fs.Opens directory here) ∧
    FileSystem.IsName (entryName key) ∧
      ∃ pieces, FileSystem.walkable (Path.join directory (entryName key)) = .ok pieces
  /-- A directory that is still to be made is made with its entries. -/
  content : ∀ made here key, (FileSystem.makeDirectories directory).run fs = (.ok (), made) →
    made.Opens directory here → '/' ∉ key.toList →
      made.nodeAt? (here ++ [entryName key]) = (table key).map fun entry => .file (entryFile entry)

theorem isComponent_entryName {key : String} (hkey : '/' ∉ key.toList) :
    FileSystem.IsComponent (entryName key) :=
  Cache.isComponent_file hkey

theorem entryName_inj {key other : String} : entryName key = entryName other ↔ key = other := by
  rw [entryName, entryName, ← String.toList_inj, String.toList_append, String.toList_append,
    List.append_left_inj, String.toList_inj]

namespace Holds

variable {directory : String} {fs fs' : FileSystem} {here : Location}
  {table : String → Option (CacheEntry String)} {key : String} {time ttl : UInt64}

theorem of_isFresh (h : IsFresh directory fs) : Holds directory fs fun _ => none where
  isTree := h.isTree
  opened _ hsome := absurd rfl hsome
  content made here key hmade hopens hkey := h.missing made here key hmade hopens hkey

/-- What stands in a directory that is there. -/
theorem nodeAt?_eq (h : Holds directory fs table) (hopens : fs.Opens directory here)
    (hkey : '/' ∉ key.toList) : fs.nodeAt? (here ++ [entryName key]) =
      (table key).map fun entry => .file (entryFile entry) :=
  h.content fs here key (hopens.run_makeDirectories h.isTree) hopens hkey

/-- Where the directory is there, its entries are all that counts. -/
theorem of_opens (hs : fs.IsTree) (hopens : fs.Opens directory here)
    (hentries : ∀ key, table key ≠ none → FileSystem.IsName (entryName key) ∧
      ∃ pieces, FileSystem.walkable (Path.join directory (entryName key)) = .ok pieces)
    (hnodes : ∀ key, '/' ∉ key.toList → fs.nodeAt? (here ++ [entryName key]) =
      (table key).map fun entry => .file (entryFile entry)) : Holds directory fs table where
  isTree := hs
  opened key hsome := ⟨⟨here, hopens⟩, hentries key hsome⟩
  content made there key hmade hthere hkey := by
    obtain rfl : made = fs := by
      have hsame := hmade.symm.trans (hopens.run_makeDirectories hs)
      exact (Prod.mk.inj hsame).2
    rw [hthere.unique hopens]
    exact hnodes key hkey

/-- Making the directory brings no entries into it. -/
theorem made (h : Holds directory fs table)
    (hmake : (FileSystem.makeDirectories directory).run fs = (.ok (), fs'))
    (hopens : fs'.Opens directory here) : Holds directory fs' table := by
  have htree := h.isTree.makeDirectories directory
  rw [hmake] at htree
  apply of_opens htree hopens
  · exact fun key hsome => (h.opened key hsome).2
  · exact fun key => h.content fs' here key hmake hopens

/-- What becomes of one entry leaves the others as they are. -/
theorem update (h : Holds directory fs table) (hopens : fs.Opens directory here)
    {entry : Option (CacheEntry String)} (hs' : fs'.IsTree) (hopens' : fs'.Opens directory here)
    (helsewhere : ∀ place, place ≠ here ++ [entryName key] → fs'.nodeAt? place = fs.nodeAt? place)
    (hhere : fs'.nodeAt? (here ++ [entryName key]) =
      entry.map fun entry => .file (entryFile entry))
    (hentry : entry ≠ none → FileSystem.IsName (entryName key) ∧
      ∃ pieces, FileSystem.walkable (Path.join directory (entryName key)) = .ok pieces) :
    Holds directory fs' (Function.update table key entry) := by
  apply of_opens hs' hopens'
  · intro other hsome
    -- Only the place of the entry itself has changed.
    by_cases hother : other = key
    · subst hother
      rw [Function.update_self] at hsome
      exact hentry hsome
    · rw [Function.update_of_ne hother] at hsome
      exact (h.opened other hsome).2
  · intro other hslash
    -- Different keys have different places.
    by_cases hother : other = key
    · subst hother
      rw [Function.update_self, hhere]
    · have hplace : here ++ [entryName other] ≠ here ++ [entryName key] := by
        simpa [entryName_inj] using hother
      rw [Function.update_of_ne hother, helsewhere _ hplace]
      exact h.nodeAt?_eq hopens hslash

/-! ### Looking at the files -/

/-- Nothing is found where there is no entry. -/
theorem canonicalize?_eq_none (h : Holds directory fs table) (hkey : '/' ∉ key.toList)
    (hnone : table key = none) :
    fs.canonicalize? (Path.join directory (entryName key)) = none := by
  apply FileSystem.canonicalize?_join_eq_none h.isTree (isComponent_entryName hkey)
  intro here hopens
  rw [h.nodeAt?_eq hopens hkey, hnone]
  rfl

/-- An entry is found in the directory. -/
theorem exists_locate (h : Holds directory fs table) (hkey : '/' ∉ key.toList)
    {entry : CacheEntry String} (hentry : table key = some entry) :
    ∃ here pieces, fs.Opens directory here ∧ FileSystem.IsName (entryName key) ∧
      FileSystem.walkable (Path.join directory (entryName key)) = .ok pieces ∧
      fs.nodeAt? (here ++ [entryName key]) = some (.file (entryFile entry)) ∧
      fs.locate (Path.join directory (entryName key)) = .ok (here ++ [entryName key]) := by
  have hsome : table key ≠ none := by
    rw [hentry]
    exact Option.some_ne_none entry
  obtain ⟨⟨here, hopens⟩, hname, pieces, hwalkable⟩ := h.opened key hsome
  have hfile : fs.nodeAt? (here ++ [entryName key]) = some (.file (entryFile entry)) := by
    rw [h.nodeAt?_eq hopens hkey, hentry]
    rfl
  exact ⟨here, pieces, hopens, hname, hwalkable, hfile,
    hopens.locate_file (isComponent_entryName hkey).slash hname hwalkable hfile⟩

/-- At the path of a key stands the file of its entry. -/
theorem fileOf?_eq (h : Holds directory fs table) (hkey : '/' ∉ key.toList) :
    fs.fileOf? (Path.join directory (entryName key)) = (table key).map entryFile := by
  cases hentry : table key with
  | none =>
    rw [FileSystem.fileOf?, FileSystem.nodeOf?, h.canonicalize?_eq_none hkey hentry]
    rfl
  | some entry =>
    obtain ⟨here, pieces, -, -, -, hfile, hlocate⟩ := h.exists_locate hkey hentry
    rw [FileSystem.fileOf?, FileSystem.nodeOf?, FileSystem.canonicalize?, hlocate, Except.toOption,
      Option.bind_some, hfile]
    rfl

/-- The entry of a key is read as it is in the table. -/
theorem entry?_eq (h : Holds directory fs table) (hkey : '/' ∉ key.toList) (ttl : UInt64) :
    Cache.entry? ⟨directory, ttl⟩ Json.asText? key fs = table key := by
  have hpath : (⟨directory, ttl⟩ : Cache).path key = Path.join directory (entryName key) := rfl
  rw [Cache.entry?, hpath, FileSystem.toOption_readText, h.fileOf?_eq hkey]
  cases table key with
  | none => rfl
  | some entry =>
    rw [Option.map_some, Option.bind_some]
    exact parse?_entryFile entry

/-! ### Changing the files -/

/-- What has been saved is in the table. -/
theorem save {data : String} (h : Holds directory fs table) (hkey : '/' ∉ key.toList)
    (hsave : ((⟨directory, ttl⟩ : Cache).save key (.string data) time).run fs = (.ok (), fs')) :
    Holds directory fs' (Function.update table key (some ⟨data, time, ttl⟩)) := by
  rw [Cache.run_save] at hsave
  -- The directories are made first, and the text is then written into the last of them.
  rcases hmake : (FileSystem.makeDirectories directory).run fs with ⟨e | _, made⟩
  · rw [hmake] at hsave
    cases hsave
  rw [hmake] at hsave
  have htree := h.isTree.makeDirectories directory
  rw [hmake] at htree
  have hwrite : (FileSystem.writeBytes (Path.join directory (entryName key))
      (entryFile ⟨data, time, ttl⟩).content).run made = (.ok (), fs') := by
    rw [content_entryFile]
    exact Action.run_ofFile_eq_ok hsave
  obtain ⟨here, pieces, hopens, hname, hwalkable, hlocate⟩ :=
    FileSystem.locateNew_of_writeBytes htree (isComponent_entryName hkey) hwrite
  have hmade := h.made hmake hopens
  -- Before the write there is an older entry or nothing, and no link in any case.
  have hbefore (node : Node) (hnode : made.nodeAt? (here ++ [entryName key]) = some node) :
      ∃ entry, node = .file (entryFile entry) := by
    rw [hmade.nodeAt?_eq hopens hkey] at hnode
    obtain ⟨entry, -, hentry⟩ := Option.map_eq_some_iff.mp hnode
    exact ⟨entry, hentry.symm⟩
  have hplace := hlocate fun target hlink => by
    obtain ⟨entry, hentry⟩ := hbefore _ hlink
    cases hentry
  have hfiles := FileSystem.run_writeBytes_plain (entryFile ⟨data, time, ttl⟩).content hplace
    fun node hnode => by
      obtain ⟨entry, rfl⟩ := hbefore node hnode
      exact ⟨entryFile entry, rfl, by rw [entryFile]⟩
  rw [entryFile_eq] at hfiles
  obtain rfl : fs' = made.place (here ++ [entryName key]) (.file (entryFile ⟨data, time, ttl⟩)) :=
    (Prod.mk.inj (hwrite.symm.trans hfiles)).2
  have hwritten : FileSystem.FileWritten (here ++ [entryName key]) made _ :=
    FileSystem.fileWritten_place (by simp) (fun node hnode => by
      obtain ⟨entry, rfl⟩ := hbefore node hnode
      exact ⟨entryFile entry, rfl⟩) (entryFile ⟨data, time, ttl⟩)
  have htree' := htree.writeBytes (Path.join directory (entryName key))
    (entryFile ⟨data, time, ttl⟩).content
  rw [hfiles] at htree'
  have hopens' := hopens.transfer hwritten.workingDirectory fun _ _ => hwritten.kept_after
  -- The entry is the only thing that has changed.
  apply hmade.update hopens htree' hopens' hwritten.elsewhere
  · rw [FileSystem.nodeAt?_place _ (by simp), if_pos rfl]
    rfl
  · exact fun _ => ⟨hname, pieces, hwalkable⟩

/-- An entry can be removed, and then it is not in the table any more. -/
theorem remove (h : Holds directory fs table) (hkey : '/' ∉ key.toList)
    {entry : CacheEntry String} (hentry : table key = some entry) :
    ∃ fs', (FileSystem.removeFile (Path.join directory (entryName key))).run fs = (.ok (), fs') ∧
      Holds directory fs' (Function.update table key none) := by
  obtain ⟨here, pieces, hopens, hname, hwalkable, hfile, -⟩ := h.exists_locate hkey hentry
  have hslash := (isComponent_entryName hkey).slash
  have hnodes (place : Location) : (fs.clear (here ++ [entryName key])).nodeAt? place =
      if place = here ++ [entryName key] then none else fs.nodeAt? place :=
    fs.nodeAt?_clear (by simp) place
  have hopens' : (fs.clear (here ++ [entryName key])).Opens directory here := by
    -- What is removed is a file, so the directory is still there.
    refine FileSystem.Opens.transfer hopens rfl ?_
    intro place node hnode hother
    rw [hnodes, if_neg, hnode]
    rintro rfl
    rw [hfile] at hnode
    exact hother _ (Option.some.inj hnode).symm
  refine ⟨_, hopens.run_removeFile hslash hname hwalkable hfile (by simp), ?_⟩
  apply h.update hopens (h.isTree.clear (by simp [hfile])) hopens'
  · intro place hplace
    rw [hnodes, if_neg hplace]
  · rw [hnodes, if_pos rfl]
    rfl
  · exact fun hnone => absurd rfl hnone

/-- An entry that is looked up is found unless it is too old, and then it is removed. -/
theorem load (h : Holds directory fs table) (hkey : '/' ∉ key.toList) (ttl now : UInt64) :
    (((⟨directory, ttl⟩ : Cache).load? Json.asText? key now).run fs).1 =
        ((table key).filter fun entry => !entry.isExpired now).map (·.data) ∧
      Holds directory (((⟨directory, ttl⟩ : Cache).load? Json.asText? key now).run fs).2
        (Function.update table key ((table key).filter fun entry => !entry.isExpired now)) := by
  have hsame : Function.update table key (table key) = table := Function.update_eq_self key table
  rw [Cache.run_load?, h.entry?_eq hkey]
  cases hentry : table key with
  | none =>
    rw [hentry] at hsame
    refine ⟨rfl, ?_⟩
    show Holds directory fs (Function.update table key none)
    rw [hsame]
    exact h
  | some entry =>
    dsimp only
    rw [Option.filter_some]
    -- An entry that is too old is removed when it is looked up.
    cases hexpired : entry.isExpired now with
    | true =>
      obtain ⟨fs', hremove, hholds⟩ := h.remove hkey hentry
      have hdiscard : (⟨directory, ttl⟩ : Cache).discard key fs = fs' := by
        show ((FileSystem.removeFile (Path.join directory (entryName key))).run fs).2 = fs'
        rw [hremove]
      refine ⟨rfl, ?_⟩
      show Holds directory ((⟨directory, ttl⟩ : Cache).discard key fs)
        (Function.update table key none)
      rw [hdiscard]
      exact hholds
    | false =>
      refine ⟨rfl, ?_⟩
      show Holds directory fs (Function.update table key (some entry))
      rw [← hentry, hsame]
      exact h

/-- What has been removed on request is not in the table any more. -/
theorem clear (h : Holds directory fs table) (hkey : '/' ∉ key.toList)
    (hclear : ((⟨directory, ttl⟩ : Cache).clear key).run fs = (.ok (), fs')) :
    Holds directory fs' (Function.update table key none) := by
  unfold Cache.clear at hclear
  obtain ⟨found, between, hask, hrest⟩ := run_bind_eq_ok hclear
  have hpath : (⟨directory, ttl⟩ : Cache).path key = Path.join directory (entryName key) := rfl
  rw [hpath] at hask hrest
  rw [Action.run_ask] at hask
  obtain ⟨hfound, rfl⟩ := Prod.mk.inj hask
  cases hentry : table key with
  | none =>
    -- Nothing is there, so nothing is removed.
    have hnone := h.canonicalize?_eq_none hkey hentry
    obtain rfl : found = false := by
      unfold FileSystem.canonicalize? at hnone
      unfold FileSystem.tryHasPath at hfound
      cases hlocate : fs.locate (Path.join directory (entryName key)) with
      | ok there =>
        rw [hlocate] at hnone
        cases hnone
      | error e =>
        rw [hlocate] at hfound
        cases e <;> cases hfound
        rfl
    cases hrest
    rw [← hentry, Function.update_eq_self]
    exact h
  | some entry =>
    obtain ⟨here, pieces, -, -, -, -, hlocate⟩ := h.exists_locate hkey hentry
    rw [FileSystem.tryHasPath, hlocate] at hfound
    cases hfound
    obtain ⟨removed, hremove, hholds⟩ := h.remove hkey hentry
    have hsame := Action.run_ofFile_eq_ok hrest
    rw [hremove] at hsame
    cases hsame
    exact hholds

/-- The files follow the table with every operation. -/
theorem turns {events : List CacheEvent} {event : CacheEvent}
    (h : Holds directory fs (shelf events)) (hkey : '/' ∉ event.key.toList)
    (hturns : event.Turns directory fs fs') :
    Holds directory fs' (shelf (event :: events)) := by
  cases hturns with
  | save hsave => exact h.save hkey hsave
  | @load time ttl key found _ _ hload =>
    have hslash : '/' ∉ key.toList := hkey
    have hlooked := (h.load hslash ttl time).2
    rw [hload] at hlooked
    exact hlooked
  | clear hclear => exact h.clear hkey hclear

end Holds

/-! ## §4 Every history -/

namespace CacheHistory

variable {directory : String} {events : List CacheEvent} {fs : FileSystem}

/-- After any history the files are those of the table. -/
theorem holds (h : CacheHistory directory events fs) : Holds directory fs (shelf events) := by
  induction h with
  | start hfresh => exact .of_isFresh hfresh
  | step _ hkey hturns ih => exact ih.turns hkey hturns

/-- Whatever was done to a cache: looking a key up when no operation is still to come finds exactly
the data that were saved under it last and not removed since, if they are not older than they may
be; an entry that was once found too old is gone, for everybody who looks until the key is saved
again; and an operation on another key changes neither the file of the key nor what is found. -/
theorem timed_store (h : CacheHistory directory events fs) {key : String}
    (hkey : '/' ∉ key.toList) :
    (∀ ttl now, (∀ event ∈ events, event.time ≤ now) → ∀ data,
      (((⟨directory, ttl⟩ : Cache).load? Json.asText? key now).run fs).1 = some data ↔
        ∃ entry, lastSave? key events = some entry ∧
          now.toNat - entry.timestamp.toNat ≤ entry.ttl.toNat ∧ entry.data = data) ∧
    (∀ later found earlier entry, events = later ++ found :: earlier →
      found.operation = .load key → lastSave? key earlier = some entry →
      entry.ttl.toNat < found.time.toNat - entry.timestamp.toNat →
      (∀ event ∈ later, ∀ data, event.operation ≠ .save key data) →
        fs.hasPath (Path.join directory (entryName key)) = false ∧
          ∀ ttl now, ((⟨directory, ttl⟩ : Cache).load? Json.asText? key now).run fs = (none, fs)) ∧
    ∀ (event : CacheEvent) fs', event.Turns directory fs fs' → '/' ∉ event.key.toList →
      event.key ≠ key →
        fs'.fileOf? (Path.join directory (entryName key)) =
            fs.fileOf? (Path.join directory (entryName key)) ∧
          ∀ ttl now, (((⟨directory, ttl⟩ : Cache).load? Json.asText? key now).run fs').1 =
            (((⟨directory, ttl⟩ : Cache).load? Json.asText? key now).run fs).1 := by
  have hholds := h.holds
  refine ⟨?_, ?_, ?_⟩
  · -- What a load answers with.
    intro ttl now hnow data
    rw [(hholds.load hkey ttl now).1, filter_shelf hnow]
    simp only [Option.map_eq_some_iff, Option.filter_eq_some_iff, CacheEntry.isExpired,
      Bool.not_eq_true', decide_eq_false_iff_not, Nat.not_lt, and_assoc]
  · -- What an expired entry leaves behind it: nothing, until it is saved anew.
    intro later found earlier entry hevents hfound hentry hexpired hunsaved
    subst hevents
    have hload : shelf (found :: earlier) key = none := by
      obtain ⟨time, ttl, operation⟩ := found
      obtain rfl : operation = .load key := hfound
      show Function.update (shelf earlier) key ((shelf earlier key).filter _) key = none
      rw [Function.update_self]
      -- The table has the entry that is too old, or none.
      rcases shelf_eq_none_or earlier key with hnone | hlast
      · rw [hnone, Option.filter_none]
      · have htoo : entry.isExpired time = true := decide_eq_true hexpired
        rw [hlast, hentry, Option.filter_some, htoo]
        rfl
    have hnone := shelf_append_eq_none hload hunsaved
    have hgone := hholds.canonicalize?_eq_none hkey hnone
    refine ⟨?_, fun ttl now => ?_⟩
    · rw [FileSystem.hasPath, hgone]
      rfl
    · rw [Cache.run_load?, hholds.entry?_eq hkey, hnone]
  · -- What another key changes: nothing.
    intro event fs' hturns hslash hother
    have hholds' := hholds.turns hslash hturns
    have hsame := @shelf_cons_of_ne events event key hother
    refine ⟨?_, fun ttl now => ?_⟩
    · rw [hholds'.fileOf?_eq hkey, hholds.fileOf?_eq hkey, hsame]
    · rw [(hholds'.load hkey ttl now).1, (hholds.load hkey ttl now).1, hsame]

end CacheHistory

/-! ### A note that is kept for a minute -/

namespace KeptNote

open FileSystem

def note : String := "\"read\"\n\tme\u0001"

/-- The files after the note has been saved. -/
def saved : FileSystem :=
  (((⟨"/", 60⟩ : Cache).save "note" (.string note) 5).run ⟨[], []⟩).2

/-- The files after the note has been looked up too late. -/
def lookedUp : FileSystem :=
  (((⟨"/", 60⟩ : Cache).load? Json.asText? "note" 66).run saved).2

theorem isFresh : IsFresh "/" ⟨[], []⟩ where
  isTree := isTree_root
  missing made here key hmade _ _ := by
    rw [makeDirectories_root] at hmade
    cases hmade
    simp [nodeAt?]

/-- The note is saved at the time 5. -/
theorem history_saved : CacheHistory "/" [⟨5, 60, .save "note" note⟩] saved := by
  have hname : IsName "note.json" := by decide
  have hwalkable : walkable (Path.join "/" "note.json") = .ok ["", "note.json"] := by
    decide
  exact .step (.start isFresh) (by decide) (.save (Cache.run_save_on_root hname hwalkable))

/-- It is looked up at the time 66. -/
theorem history_lookedUp :
    CacheHistory "/" [⟨66, 60, .load "note"⟩, ⟨5, 60, .save "note" note⟩] lookedUp :=
  .step history_saved (by decide) (.load rfl)

end KeptNote

/-- A note that is kept for sixty seconds is found after sixty ones, and is gone after sixty-one. -/
theorem note_kept_for_a_minute :
    (((⟨"/", 0⟩ : Cache).load? Json.asText? "note" 65).run KeptNote.saved).1 = some KeptNote.note ∧
      (((⟨"/", 0⟩ : Cache).load? Json.asText? "note" 66).run KeptNote.saved).1 = none ∧
      KeptNote.lookedUp.hasPath (Path.join "/" (entryName "note")) = false := by
  have hkey : '/' ∉ "note".toList := by decide
  have hsaved := KeptNote.history_saved.timed_store hkey
  have hlookedUp := KeptNote.history_lookedUp.timed_store hkey
  refine ⟨?_, ?_, ?_⟩
  · exact (hsaved.1 0 65 (by decide) KeptNote.note).mpr ⟨⟨KeptNote.note, 5, 60⟩, by decide⟩
  · rw [Option.eq_none_iff_forall_ne_some]
    intro data hdata
    obtain ⟨entry, hentry, hage, -⟩ := (hsaved.1 0 66 (by decide) data).mp hdata
    obtain rfl : entry = ⟨KeptNote.note, 5, 60⟩ := (Option.some.inj hentry).symm
    exact absurd hage (by decide)
  · exact (hlookedUp.2.1 [] _ _ ⟨KeptNote.note, 5, 60⟩ rfl rfl rfl (by decide) (by simp)).1

end JdkFinder
