import JdkFinder.Proofs.Catalog.Fetch
import JdkFinder.Proofs.Files.Frame

/-!
# What a fetch of the catalog touches

A fetch may remove the entry of the catalog from the cache and may write it, and does nothing else
to the files (`CatalogSource.touches_of_fetch`).  Every file that is not the one of the entry is
left alone (`Cache.Touches.nodeAt?_eq`).
-/

namespace JdkFinder

namespace Cache

variable {cache : Cache} {key path : String} {fs fs' : FileSystem} {place : Location}
  {file : RegularFile}

/-! ## §1 The file of an entry -/

/-- The place of the entry of a key, once the directory of the cache has been made. -/
def place? (cache : Cache) (key : String) (fs : FileSystem) : Option Location :=
  ((FileSystem.makeDirectories cache.directory).run fs).2.canonicalize? (cache.path key)

/-- A file is not that of an entry, neither now nor when the entry has been removed. -/
structure Avoids (cache : Cache) (key : String) (fs : FileSystem) (place : Location) : Prop where
  entry : cache.place? key fs ≠ some place
  later : cache.place? key (cache.discard key fs) ≠ some place

theorem canonicalize?_path_ne (h : cache.place? key fs ≠ some place) :
    fs.canonicalize? (cache.path key) ≠ some place := by
  intro hpath
  have hadds := FileSystem.makeDirectories_adds cache.directory fs
  exact h (hadds.canonicalize?_of_before hpath)

/-- Without links a file of another name is not that of an entry. -/
theorem Avoids.of_hasNoLinks (hs : fs.IsTree) (hlinks : fs.HasNoLinks) (hkey : '/' ∉ key.toList)
    (hname : place.getLast? ≠ some (key ++ ".json")) : cache.Avoids key fs place := by
  have hentry := isComponent_file hkey
  have hother {fs : FileSystem} (hs : fs.IsTree) (hlinks : fs.HasNoLinks) :
      cache.place? key fs ≠ some place := by
    intro hplace
    have hadded := FileSystem.makeDirectories_adds cache.directory fs
    exact hname ((hlinks.of_added hadded).getLast?_of_canonicalize?
      (hs.makeDirectories cache.directory) hentry hplace)
  exact ⟨hother hs hlinks, hother (hs.removeFile _) (hlinks.removeFile hs hentry)⟩

/-- An attempt to save an entry spares every file that is not that of the entry. -/
theorem save_spares (hs : fs.IsTree) (data : Json) (now : UInt64)
    (hfile : fs.nodeAt? place = some (.file file)) (hplace : cache.place? key fs ≠ some place) :
    fs.Spares place ((cache.save key data now).run fs).2 := by
  have hmade := hs.makeDirectories cache.directory
  have hadds := FileSystem.makeDirectories_adds cache.directory fs
  rw [place?] at hplace
  rw [run_save]
  -- Where the directories cannot all be made, those that were made stay.
  rcases hmake : (FileSystem.makeDirectories cache.directory).run fs with ⟨e | _, between⟩
  · rw [hmake] at hadds
    exact hadds.spares place
  · rw [hmake] at hmade hadds hplace
    dsimp only
    rw [Action.run_ofFile]
    exact (hadds.spares place).trans
      (hmade.writeText_spares _ ((hadds.spares place).file file hfile) hplace)

/-- An attempt to remove an entry leaves every other file alone. -/
theorem nodeAt?_discard (hs : fs.IsTree) (hkey : '/' ∉ key.toList)
    (hfile : fs.nodeAt? place = some (.file file)) (hplace : cache.place? key fs ≠ some place) :
    (cache.discard key fs).nodeAt? place = some (.file file) :=
  FileSystem.nodeAt?_removeFile hs (isComponent_file hkey) hfile (canonicalize?_path_ne hplace)

theorem discard_discard (hs : fs.IsTree) (hkey : '/' ∉ key.toList) :
    cache.discard key (cache.discard key fs) = cache.discard key fs :=
  FileSystem.removeFile_again hs (isComponent_file hkey)

/-- To clear an entry is to remove it, or it does nothing. -/
theorem clear_cases (cache : Cache) (key : String) (fs : FileSystem) :
    ((cache.clear key).run fs).2 = fs ∨ ((cache.clear key).run fs).2 = cache.discard key fs := by
  unfold clear
  rw [run_bind, Action.run_ask]
  cases fs.tryHasPath (cache.path key) with
  | error e => exact .inl rfl
  | ok found =>
    cases found with
    | false => exact .inl rfl
    | true => exact .inr rfl

/-! ## §2 What is touched -/

/-- What may become of the files when an entry is removed or written. -/
inductive Touches (cache : Cache) (key : String) (fs : FileSystem) : FileSystem → Prop where
  | nothing : Touches cache key fs fs
  | discarded : Touches cache key fs (cache.discard key fs)
  | saved (data : Json) (now : UInt64) :
      Touches cache key fs ((cache.save key data now).run fs).2
  | replaced (data : Json) (now : UInt64) :
      Touches cache key fs ((cache.save key data now).run (cache.discard key fs)).2

namespace Touches

/-- What is done after the removal of the entry is part of what may be done. -/
theorem of_discarded (hs : fs.IsTree) (hkey : '/' ∉ key.toList)
    (h : cache.Touches key (cache.discard key fs) fs') : cache.Touches key fs fs' := by
  have hagain : cache.discard key (cache.discard key fs) = cache.discard key fs :=
    discard_discard hs hkey
  cases h with
  | nothing => exact .discarded
  | discarded =>
    rw [hagain]
    exact .discarded
  | saved data now => exact .replaced data now
  | replaced data now =>
    rw [hagain]
    exact .replaced data now

/-- A file that is not that of the entry is left alone. -/
theorem nodeAt?_eq (h : cache.Touches key fs fs') (hs : fs.IsTree) (hkey : '/' ∉ key.toList)
    (hfile : fs.nodeAt? place = some (.file file)) (havoids : cache.Avoids key fs place) :
    fs'.nodeAt? place = some (.file file) := by
  have hdiscarded := nodeAt?_discard hs hkey hfile havoids.entry
  cases h with
  | nothing => exact hfile
  | discarded => exact hdiscarded
  | saved data now => exact (save_spares hs data now hfile havoids.entry).file file hfile
  | replaced data now =>
    have htree : (cache.discard key fs).IsTree := hs.removeFile _
    exact (save_spares htree data now hdiscarded havoids.later).file file hdiscarded

/-- A path that does not lead through the entry still leads to the file. -/
theorem canonicalize?_eq (h : cache.Touches key fs fs') (hs : fs.IsTree) (hkey : '/' ∉ key.toList)
    (hfile : fs.nodeAt? place = some (.file file)) (havoids : cache.Avoids key fs place)
    (hpath : fs.canonicalize? path = some place)
    (hwithout : (cache.discard key fs).canonicalize? path = some place) :
    fs'.canonicalize? path = some place := by
  cases h with
  | nothing => exact hpath
  | discarded => exact hwithout
  | saved data now => exact (save_spares hs data now hfile havoids.entry).path path hpath
  | replaced data now =>
    have htree : (cache.discard key fs).IsTree := hs.removeFile _
    have hdiscarded := nodeAt?_discard hs hkey hfile havoids.entry
    exact (save_spares htree data now hdiscarded havoids.later).path path hwithout

end Touches

end Cache

/-! ## §3 Fetches -/

namespace CatalogSource

variable {source : CatalogSource} {cache : Cache} {fs : FileSystem} {c : FetchCircumstances}

/-- Asking the cache leaves the entry there or removes it. -/
theorem files_of_cachedText? {found : Option String} {between : FileSystem} {now : UInt64}
    (hcache : source.cache = some cache)
    (h : (source.cachedText? now).run fs = (found, between)) :
    between = fs ∨ between = cache.discard catalogKey fs := by
  have hlooks := cache.looksUp CachedFeed.decode? catalogKey now fs
  rw [run_cachedText? hcache] at h
  obtain ⟨-, rfl⟩ := Prod.mk.inj h
  generalize ((cache.load? CachedFeed.decode? catalogKey now).run fs).1 = looked at hlooks
  generalize ((cache.load? CachedFeed.decode? catalogKey now).run fs).2 = fs' at hlooks
  cases hlooks with
  | missing => exact .inl rfl
  | expired => exact .inr rfl
  | found => exact .inl rfl

/-- A fetch touches nothing but the entry of the catalog. -/
theorem touches_of_fetch (hcache : source.cache = some cache) :
    cache.Touches catalogKey fs ((source.fetch c).run fs).2 := by
  have hfetches := source.fetches c fs
  generalize ((source.fetch c).run fs).1 = result at hfetches
  generalize ((source.fetch c).run fs).2 = fs' at hfetches
  cases hfetches with
  | cancelled => exact .nothing
  | cached => exact .nothing
  | failed _ hconsulted =>
    rcases files_of_cachedText? hcache hconsulted with rfl | rfl
    · exact .nothing
    · exact .discarded
  | rejected _ hconsulted =>
    rcases files_of_cachedText? hcache hconsulted with rfl | rfl
    · exact .nothing
    · exact .discarded
  | downloaded _ hconsulted =>
    -- The entry is saved in what asking the cache has left.
    rw [run_remember hcache]
    rcases files_of_cachedText? hcache hconsulted with rfl | rfl
    · exact .saved _ _
    · exact .replaced _ _

/-- Without a cache a fetch touches nothing. -/
theorem files_of_fetch_uncached (hcache : source.cache = none) :
    ((source.fetch c).run fs).2 = fs := by
  have hfetches := source.fetches c fs
  generalize ((source.fetch c).run fs).1 = result at hfetches
  generalize ((source.fetch c).run fs).2 = fs' at hfetches
  have hbetween {found : Option String} {between : FileSystem}
      (h : (source.cachedText? c.startTime).run fs = (found, between)) : between = fs := by
    rw [run_cachedText?_uncached hcache] at h
    exact (Prod.mk.inj h).2.symm
  cases hfetches with
  | cancelled => rfl
  | cached => rfl
  | failed _ hconsulted => exact hbetween hconsulted
  | rejected _ hconsulted => exact hbetween hconsulted
  | downloaded _ hconsulted =>
    rw [run_remember_uncached hcache]
    exact hbetween hconsulted

end CatalogSource

end JdkFinder
