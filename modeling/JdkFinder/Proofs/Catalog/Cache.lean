import JdkFinder.Catalog
import JdkFinder.Proofs.Files.Folder
import JdkFinder.Proofs.Json.Document
import JdkFinder.Proofs.Json.Record

/-!
# What the cache holds

An entry that has been written is read again as it was (`CacheEntry.parse?_render`).  After an
attempt to save an entry nothing else can be read in its place (`Cache.readText_of_save`), and
looking an entry up at most takes it away (`Cache.readText_of_load?`).
-/

namespace JdkFinder

/-! ## §1 Entries -/

namespace CacheEntry

variable {α : Type} {decodeData : Json → Option α} {data : Json} (timestamp ttl : UInt64)

theorem decode?_encode : decode? decodeData (encode ⟨data, timestamp, ttl⟩) =
    (decodeData data).map fun a => ⟨a, timestamp, ttl⟩ := by
  have hslots : Json.slots? [["data"], ["timestamp"], ["ttl"]] (encode ⟨data, timestamp, ttl⟩) =
      some [.given data, .given (.nat timestamp.toNat), .given (.nat ttl.toNat)] := rfl
  simp only [decode?, hslots, Option.bind_eq_bind, Option.bind_some, Json.Slot.required?,
    Json.asWord64?_nat]
  cases decodeData data <;> rfl

/-- An entry is read again as it was written. -/
theorem parse?_render (h : Json.Plain 126 data) :
    parse? decodeData (render ⟨data, timestamp, ttl⟩) =
      (decodeData data).map fun a => ⟨a, timestamp, ttl⟩ := by
  have hplain : Json.Plain Json.maxDepth (encode ⟨data, timestamp, ttl⟩) := by
    refine .object fun field hfield => ?_
    simp only [List.mem_cons, List.not_mem_nil, or_false] at hfield
    rcases hfield with rfl | rfl | rfl
    · exact h
    · exact .nat timestamp.toNat_lt
    · exact .nat ttl.toNat_lt
  rw [parse?, render, String.toList_ofList, Json.read?_pretty hplain, Option.bind_some,
    decode?_encode]

end CacheEntry

theorem CachedFeed.decode?_encode (feed : CachedFeed) : decode? feed.encode = some feed :=
  rfl

theorem CachedFeed.plain_encode (feed : CachedFeed) : Json.Plain 126 feed.encode := by
  refine .object fun field hfield => ?_
  simp only [List.mem_cons, List.not_mem_nil, or_false] at hfield
  rcases hfield with rfl | rfl
  · exact .string feed.url
  · exact .string feed.text

namespace Cache

variable {cache : Cache} {key : String} {fs : FileSystem}

/-! ## §2 Saving -/

theorem isIdle_file (key : String) : Path.isIdle (key ++ ".json") = false := by
  have hlength (name : String) (hname : Path.isIdle name = true) : name.length < 5 := by
    rcases Bool.or_eq_true_iff.mp hname with hempty | hpoint
    · rw [String.isEmpty_iff.mp hempty]
      decide
    · rw [beq_iff_eq.mp hpoint]
      decide
  rw [Bool.eq_false_iff]
  intro hidle
  have hshort := hlength _ hidle
  rw [String.length_append] at hshort
  have hending : ".json".length = 5 := by decide
  omega

/-- The file of a key without slashes stands in the directory of the cache. -/
theorem isComponent_file (hkey : '/' ∉ key.toList) :
    FileSystem.IsComponent (key ++ ".json") where
  slash := by
    rw [String.toList_append, List.mem_append, not_or]
    exact ⟨hkey, by decide⟩
  notIdle := isIdle_file key
  notUp hup := by
    -- The name has five characters at least.
    have hlength := congrArg String.length hup
    have hending : ".json".length = 5 := by decide
    have hdots : "..".length = 2 := by decide
    rw [String.length_append] at hlength
    omega

theorem run_save (cache : Cache) (key : String) (data : Json) (now : UInt64) (fs : FileSystem) :
    (cache.save key data now).run fs =
      match (FileSystem.makeDirectories cache.directory).run fs with
      | (.error e, between) => (.error (.io e), between)
      | (.ok _, between) =>
        (Action.ofFile (FileSystem.writeText (cache.path key)
          (CacheEntry.render ⟨data, now, cache.ttl⟩))).run between := by
  unfold save
  rw [run_bind, Action.run_ofFile]
  rcases (FileSystem.makeDirectories cache.directory).run fs with ⟨e | _, between⟩ <;> rfl

/-- What is read after an attempt to save an entry is the entry. -/
theorem readText_of_save (hs : fs.IsTree) (hkey : '/' ∉ key.toList) {data : Json} {now : UInt64}
    {text : String}
    (h : ((cache.save key data now).run fs).2.readText (cache.path key) = .ok text) :
    text = CacheEntry.render ⟨data, now, cache.ttl⟩ := by
  have hname := isComponent_file hkey
  rw [run_save] at h
  rcases hmake : (FileSystem.makeDirectories cache.directory).run fs with ⟨e | _, between⟩
  · -- Nothing is read in a directory that could not be made.
    rw [hmake] at h
    obtain ⟨here, file, hlocate, -⟩ := FileSystem.readText_eq_ok_iff.mp h
    have hnone := FileSystem.canonicalize?_join_of_error hs hmake hname.notIdle hname.slash
    rw [FileSystem.canonicalize?, ← path, hlocate] at hnone
    cases hnone
  · rw [hmake] at h
    dsimp only at h
    rw [Action.run_ofFile] at h
    exact FileSystem.readText_of_writeText h

/-- An entry that has been saved is found. -/
theorem entry?_of_save {α : Type} {decodeData : Json → Option α} (hs : fs.IsTree) {data : Json}
    {now : UInt64} {fs' : FileSystem} (hdata : Json.Plain 126 data)
    (h : (cache.save key data now).run fs = (.ok (), fs')) :
    cache.entry? decodeData key fs' =
      (decodeData data).map fun a => ⟨a, now, cache.ttl⟩ := by
  have hbetween := hs.makeDirectories cache.directory
  rw [run_save] at h
  rcases hmake : (FileSystem.makeDirectories cache.directory).run fs with ⟨e | _, between⟩
  · rw [hmake] at h
    cases h
  · rw [hmake] at h hbetween
    have hread := hbetween.readText_of_writeText (Action.run_ofFile_eq_ok h)
    unfold entry?
    rw [hread, ← CacheEntry.parse?_render now cache.ttl hdata]
    rfl

theorem isTree_save (hs : fs.IsTree) (key : String) (data : Json) (now : UInt64) :
    ((cache.save key data now).run fs).2.IsTree := by
  have hmade := hs.makeDirectories cache.directory
  rw [run_save]
  rcases hmake : (FileSystem.makeDirectories cache.directory).run fs with ⟨e | _, between⟩
  · rw [hmake] at hmade
    exact hmade
  · rw [hmake] at hmade
    dsimp only
    rw [Action.run_ofFile]
    exact hmade.writeBytes _ _

/-- On a machine with nothing but the root every entry can be saved in the root. -/
theorem run_save_on_root {ttl : UInt64} {data : Json} {now : UInt64}
    (hname : FileSystem.IsName (key ++ ".json"))
    (hwalkable : FileSystem.walkable (Path.join "/" (key ++ ".json")) = .ok ["", key ++ ".json"]) :
    ((⟨"/", ttl⟩ : Cache).save key data now).run ⟨[], []⟩ =
      (.ok (), (((⟨"/", ttl⟩ : Cache).save key data now).run ⟨[], []⟩).2) := by
  -- The root is there from the start, and no other directory has to be made.
  have hstart : FileSystem.startOf ⟨[], []⟩ (Path.join "/" (key ++ ".json")) = [] := ite_self []
  have hplace : FileSystem.locateNew ⟨[], []⟩ (Path.join "/" (key ++ ".json")) =
      .ok [key ++ ".json"] := by
    refine FileSystem.locateNew_eq_ok_iff.mpr ⟨_, hwalkable, .idle FileSystem.isIdle_empty ?_⟩
    rw [hstart]
    exact .new hname rfl rfl
  have hok : (((⟨"/", ttl⟩ : Cache).save key data now).run ⟨[], []⟩).1 = .ok () := by
    have hpath : (⟨"/", ttl⟩ : Cache).path key = Path.join "/" (key ++ ".json") := rfl
    rw [run_save, FileSystem.makeDirectories_root]
    dsimp only
    rw [hpath, Action.run_ofFile, FileSystem.writeText,
      FileSystem.run_writeBytes_new _ hplace rfl]
    rfl
  exact Prod.ext hok rfl

/-! ## §3 Looking up -/

variable {α : Type} {decodeData : Json → Option α} {now : UInt64}

/-- What looking an entry up can do. -/
inductive LooksUp (cache : Cache) (decodeData : Json → Option α) (key : String) (now : UInt64)
    (fs : FileSystem) : Option α → FileSystem → Prop where
  /-- There is no entry. -/
  | missing (h : cache.entry? decodeData key fs = none) :
      LooksUp cache decodeData key now fs none fs
  /-- The entry is too old and is removed. -/
  | expired {entry : CacheEntry α} (h : cache.entry? decodeData key fs = some entry)
      (hexpired : entry.isExpired now = true) :
      LooksUp cache decodeData key now fs none (cache.discard key fs)
  | found {entry : CacheEntry α} (h : cache.entry? decodeData key fs = some entry)
      (hexpired : entry.isExpired now = false) :
      LooksUp cache decodeData key now fs (some entry.data) fs

/-- There is no entry, or it is found, or it is too old and is removed. -/
theorem run_load? (cache : Cache) (decodeData : Json → Option α) (key : String) (now : UInt64)
    (fs : FileSystem) :
    (cache.load? decodeData key now).run fs = match cache.entry? decodeData key fs with
      | none => (none, fs)
      | some entry =>
        if entry.isExpired now then (none, cache.discard key fs) else (some entry.data, fs) := by
  unfold load?
  rw [run_state_bind]
  have hget : (MonadState.get : StateM FileSystem FileSystem).run fs = (fs, fs) := rfl
  rw [hget]
  -- Only an entry that is too old changes the files.
  dsimp only
  cases cache.entry? decodeData key fs with
  | none => rfl
  | some entry =>
    dsimp only
    split
    · rfl
    · rfl

theorem looksUp (cache : Cache) (decodeData : Json → Option α) (key : String) (now : UInt64)
    (fs : FileSystem) :
    LooksUp cache decodeData key now fs ((cache.load? decodeData key now).run fs).1
      ((cache.load? decodeData key now).run fs).2 := by
  rw [run_load?]
  cases hentry : cache.entry? decodeData key fs with
  | none => exact .missing hentry
  | some entry =>
    dsimp only
    split
    · rename_i hexpired
      exact .expired hentry hexpired
    · rename_i hexpired
      exact .found hentry (Bool.eq_false_iff.mpr hexpired)

/-! ## §4 Removing -/

/-- An entry is read from a text that can be read. -/
theorem exists_readText_of_entry {entry : CacheEntry α}
    (hentry : cache.entry? decodeData key fs = some entry) :
    ∃ text, fs.readText (cache.path key) = .ok text := by
  obtain ⟨text, hread, -⟩ := Option.bind_eq_some_iff.mp hentry
  cases hfile : fs.readText (cache.path key) with
  | error e =>
    rw [hfile] at hread
    cases hread
  | ok other => exact ⟨other, rfl⟩

/-- After the removal of an entry that could be read nothing is found at its path. -/
theorem canonicalize?_discard {entry : CacheEntry α} (hs : fs.IsTree) (hkey : '/' ∉ key.toList)
    (hentry : cache.entry? decodeData key fs = some entry) :
    (cache.discard key fs).canonicalize? (cache.path key) = none := by
  obtain ⟨text, hread⟩ := exists_readText_of_entry hentry
  obtain ⟨fs', hremove, hgone⟩ :=
    FileSystem.removeFile_of_readText hs (isComponent_file hkey) hread
  rwa [discard, path, hremove]

/-- Removing an entry touches nothing but what its path names. -/
theorem nodeAt?_discard_eq (cache : Cache) (key : String) (fs : FileSystem) (place : Location) :
    (cache.discard key fs).nodeAt? place = fs.nodeAt? place ∨
      fs.locateEntry (cache.path key) = .ok (some place) ∧
        (cache.discard key fs).nodeAt? place = none := by
  unfold discard
  -- Removing clears the place that the path leads to, or nothing at all.
  rcases FileSystem.removeFile_run (cache.path key) fs with
    hsame | ⟨here, hentry, hdirectory, hclear⟩
  · rw [hsame]
    exact .inl rfl
  · rw [hclear, FileSystem.nodeAt?_clear _ (FileSystem.ne_nil_of_not_directory hdirectory)]
    split
    · subst place
      exact .inr ⟨hentry, rfl⟩
    · exact .inl rfl

/-- Where nothing is found there is no entry. -/
theorem entry?_eq_none_of_canonicalize? (hnone : fs.canonicalize? (cache.path key) = none) :
    cache.entry? decodeData key fs = none := by
  unfold entry?
  rw [FileSystem.toOption_readText, FileSystem.fileOf?, FileSystem.nodeOf?, hnone]
  rfl

/-- An entry that is there can be removed, and then nothing is found at its path. -/
theorem exists_clear_of_entry {entry : CacheEntry α} (hs : fs.IsTree) (hkey : '/' ∉ key.toList)
    (hentry : cache.entry? decodeData key fs = some entry) :
    ∃ cleared, (cache.clear key).run fs = (.ok (), cleared) ∧
      cleared.canonicalize? (cache.path key) = none := by
  obtain ⟨text, hread⟩ := exists_readText_of_entry hentry
  obtain ⟨here, file, hlocate, -⟩ := FileSystem.readText_eq_ok_iff.mp hread
  obtain ⟨cleared, hremove, hgone⟩ :=
    FileSystem.removeFile_of_readText hs (isComponent_file hkey) hread
  have hfound : fs.tryHasPath (cache.path key) = .ok true := by
    rw [FileSystem.tryHasPath, hlocate]
  refine ⟨cleared, ?_, hgone⟩
  unfold clear
  rw [run_bind, Action.run_ask, hfound]
  show (Action.ofFile (FileSystem.removeFile (cache.path key))).run fs = (.ok (), cleared)
  rw [Action.run_ofFile, path, hremove]
  rfl

end Cache

end JdkFinder
